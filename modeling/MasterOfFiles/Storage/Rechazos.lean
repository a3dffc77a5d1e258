import MasterOfFiles.Storage.Bajas

/-!
A FLUSH that is refused. The pages are moved to new blocks one by one, before it is known that
all of them can be; the ones moved stay moved when a later one fails. Names are simple ones
(Nombre).
-/
namespace StorageRechazos
open StorageEstado StorageArchivos StorageEscritura StoragePrimitivas StoragePedidos
open StorageAcuerdo StorageMovidas StorageEfectos StorageMetadata StorageVolcados StorageBajas
open LinkDirectory FirstFit

variable {Hash : Type} {sb : Superbloque} {s s' : Storage Hash} {f : FileTag} {c : Carpeta}
  {paginas : List Pagina} {cantidad : Int}

def metadata (s : Storage Hash) (f : FileTag) : Option (Nat × EstadoArchivo × List Nat) :=
  (s.carpetas.lookup f).map fun c => (c.tamanio, c.estado, c.blocks)

/-- Nothing that can be looked at changed. -/
structure Intacto (sb : Superbloque) (s s' : Storage Hash) : Prop where
  bitmap : s'.bitmap = s.bitmap
  metadata : ∀ g, metadata s' g = metadata s g
  links : ∀ g i, s'.destino g i = s.destino g i
  contenidos : ∀ g bloque, leerBloque sb s' g bloque = leerBloque sb s g bloque

theorem intacto_refl (s : Storage Hash) : Intacto sb s s :=
  ⟨rfl, fun _ => rfl, fun _ _ => rfl, fun _ _ => rfl⟩

theorem intacto_movida (listed : Listado c) (hc : s.carpetas.lookup f = some c)
    (moved : Movida sb s f c c.blocks [] s') : Intacto sb s s' := by
  obtain ⟨l, links, at_⟩ := moved.carpeta
  have same : ∀ j, l.lookup j = c.logicos.lookup j := fun j => (at_ j).trans (listed j).symm
  have data : s'.datos = s.datos := funext fun b => moved.datos b (by simp)
  have folder : ∀ g, g ≠ f → s'.carpetas.lookup g = s.carpetas.lookup g := links.otras
  refine ⟨?_, ?_, ?_, ?_⟩
  · funext b
    rw [Bool.eq_iff_iff, moved.bits b]
    simp
  · intro g
    by_cases hg : g = f
    · subst hg
      rw [metadata, metadata, links.propia, hc]
      rfl
    · simp only [metadata, folder g hg]
  · intro g i
    by_cases hg : g = f
    · subst hg
      rw [destino_of_lookup links.propia, destino_of_lookup hc]
      exact same i
    · simp only [Storage.destino, folder g hg]
  · intro g bloque
    by_cases hg : g = f
    · subst hg
      simp only [leerBloque, links.propia, hc, same, data]
    · exact leerBloque_congr (folder g hg) (fun _ _ _ => by rw [data]) bloque

def FlushSeguro (sb : Superbloque) (s : Storage Hash) (f : FileTag) (paginas : List Pagina)
    (cantidad : Int) : Prop :=
  ∀ c, Abierta s f c → FlushEntero sb s c paginas cantidad

theorem flushArchivo_no_abierta (closed : ∀ c, ¬ Abierta s f c) :
    flushArchivo sb s f paginas cantidad = (false, s) := by
  rcases abierta_or s f with ⟨c, open_⟩ | hp | none_ | ⟨c, hc, done⟩
  · exact (closed c open_).elim
  · simp [flushArchivo, hp]
  · simp only [flushArchivo, none_]
    split <;> rfl
  · have shut : verificarSiCommited s f = true := by simp [verificarSiCommited, hc, done]
    simp only [flushArchivo, hc, shut, if_true]
    split <;> rfl

/-- A FLUSH that is refused leaves everything as it was exactly when its packet is entire: all
    its pages can be moved, or none. -/
theorem rechazo_intacto_iff (h : Coherente s) (f : FileTag) (paginas : List Pagina)
    (cantidad : Int) :
    ((flushArchivo sb s f paginas cantidad).1 = false →
      Intacto sb s (flushArchivo sb s f paginas cantidad).2) ↔
      FlushSeguro sb s f paginas cantidad := by
  by_cases able : ∃ c, Abierta s f c
  swap
  · have closed : ∀ c, ¬ Abierta s f c := fun c open_ => able ⟨c, open_⟩
    refine iff_of_true (fun _ => ?_) fun c open_ => (closed c open_).elim
    rw [flushArchivo_no_abierta closed]
    exact intacto_refl s
  obtain ⟨c, open_⟩ := able
  have listed := h.listas f c open_.esta
  obtain ⟨moved, sub, range, full, ok, done, _, moves⟩ := flushArchivo_efecto sb h.fisicos
    open_.libre open_.esta open_.enCurso listed paginas cantidad
  have taken := congrArg List.length done.tomados
  simp only [List.length_append, List.length_map] at taken
  constructor
  · intro intact c' open'
    cases open_.esta.symm.trans open'.esta
    cases answer : (flushArchivo sb s f paginas cantidad).1 with
    | true =>
      obtain ⟨all, complete⟩ := ok.mp answer
      refine .inl ⟨fun p hp => ?_, complete, ?_⟩
      · obtain ⟨m, hm, rfl⟩ := List.mem_map.mp (all ▸ hp)
        exact range m hm
      · rw [← all, List.length_map]
        omega
    | false =>
      -- the bitmap is as before, so no page took a block
      rw [(intact answer).bitmap] at taken
      have still : moved = [] := List.eq_nil_of_length_eq_zero (by omega)
      by_cases none_ : freeSlots sb.cantidadBloques s.bitmap = []
      · exact .inr (.inr none_)
      · exact .inr (.inl fun p hp inside => moves ⟨p, hp, inside⟩ none_ still)
  · intro whole refused
    rcases whole c open_ with ⟨inside, complete, space⟩ | outside | full_
    · have all : moved.map Prod.fst = paginas.take cantidad.toNat := by
        rcases full inside with all | empty
        · exact all
        · refine sub.eq_of_length_le ?_
          rw [empty, List.length_nil] at taken
          rw [List.length_map]
          omega
      rw [ok.mpr ⟨all, complete⟩] at refused
      contradiction
    · have still : moved = [] := by
        cases moved with
        | nil => rfl
        | cons m rest => exact (outside m.1 (sub.subset (by simp)) (range m (by simp))).elim
      subst still
      rw [refused] at done
      exact intacto_movida listed open_.esta done
    · have still : moved = [] := by
        rw [full_, List.length_nil] at taken
        exact List.eq_nil_of_length_eq_zero (by omega)
      subst still
      rw [refused] at done
      exact intacto_movida listed open_.esta done

theorem rechazo_intacto_iff_compartido :
    ((flushArchivo discoDeSeis compartido b1 [(4, [121])] 1).1 = false →
      Intacto discoDeSeis compartido (flushArchivo discoDeSeis compartido b1 [(4, [121])] 1).2) ↔
      FlushSeguro discoDeSeis compartido b1 [(4, [121])] 1 :=
  rechazo_intacto_iff (consistente_coherente consistente_compartido)
    b1 [(4, [121])] 1

/-- The first page of the packet is moved to block 2, then the second one is out of range. -/
theorem rechazo_con_una_pagina :
    Coherente compartido ∧
      (flushArchivo discoDeSeis compartido b1 [(0, [121]), (5, [122])] 2).1 = false ∧
      ¬ Intacto discoDeSeis compartido
        (flushArchivo discoDeSeis compartido b1 [(0, [121]), (5, [122])] 2).2 := by
  constructor
  · exact consistente_coherente consistente_compartido
  constructor
  · decide
  intro intact
  have before : compartido.bitmap 2 = false := by decide
  have after : (flushArchivo discoDeSeis compartido b1 [(0, [121]), (5, [122])] 2).2.bitmap 2 =
      true := by decide
  rw [intact.bitmap, before] at after
  contradiction

end StorageRechazos
