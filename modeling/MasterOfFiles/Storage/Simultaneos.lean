import MasterOfFiles.Lib.Ownership
import MasterOfFiles.Storage.Bajas
import MasterOfFiles.Storage.DeleteYFlush
import MasterOfFiles.Storage.Versiones

/-!
FLUSH of any number of File:Tags at the same time, one file-system call or one section under
mutex_bitmap at a time, in any order. What keeps them apart: a block is reserved only if its
bit is clear, and a FLUSH writes only to blocks it reserved itself.
-/
namespace StorageSimultaneos
open StorageEstado StorageArchivos StorageEscritura StoragePrimitivas StoragePasos StorageAcuerdo
open StorageMovidas StorageEfectos StorageBloquesEnUso StorageVolcados StorageIntercalados
open StorageDeleteYFlush StorageVersiones StoragePedidos StorageBajas
open LinkDirectory FirstFit Ownership

variable {Hash : Type}

abbrev Paquete := List Pagina × Int

def pedidas (paquete : Paquete) : List Pagina := paquete.1.take paquete.2.toNat

abbrev Flushes (Hash : Type) := Pool FileTag Flush (Storage Hash)

def inicial (s₀ : Storage Hash) (paquete : FileTag → Paquete) : Flushes Hash where
  locals f := Flush.inicial (paquete f).1 (paquete f).2
  shared := s₀

variable {sb : Superbloque} {s₀ s s' : Storage Hash} {f g : FileTag} {c : Carpeta}
  {paquete : Paquete} {y y' : Flush} {movidas : List (Pagina × Nat)} {b n : Nat}

def Tiene (movidas : List (Pagina × Nat)) (y : Flush) (b : Nat) : Prop :=
  b ∈ movidas.map Prod.snd ∨ enManosFlush y = some b

def enTurno (y : Flush) : Option EnTurno :=
  match y.pc with
  | .reservar p | .abrirOrigen p _ | .abrirDestino p _ _ | .leer p _ => some p
  | .escribirCopia p _ _ | .unlinkLogico p _ | .link p _ => some p
  | _ => none

def paginaDe (p : EnTurno) : Pagina := (p.i, p.contenido)

def EnBucle (y : Flush) : Prop :=
  match y.pc with
  | .statLogico | .reservar _ | .abrirOrigen _ _ | .abrirDestino _ _ true | .leer _ _ => True
  | .escribirCopia _ _ _ | .unlinkLogico _ _ | .link _ _ | .guardarMetadata => True
  | _ => False

structure Prepara (sb : Superbloque) (f : FileTag) (paquete : Paquete) (c : Carpeta)
    (movidas : List (Pagina × Nat)) (y : Flush) (s : Storage Hash) : Prop where
  bucle : EnBucle y
  metadata : y.metadata = c
  cantidad : y.cantidad = paquete.2
  turno : ∀ p, enTurno y = some p → EnRango sb c p.i ∧ p.actual = c.blocks.getD p.i 0
  rango : ∀ m ∈ movidas, EnRango sb c m.1.1
  orden : (movidas.map Prod.fst ++ (enTurno y).toList.map paginaDe ++ y.paginas).Sublist
    (pedidas paquete)
  todas : y.exitosas = true →
    movidas.map Prod.fst ++ (enTurno y).toList.map paginaDe ++ y.paginas = pedidas paquete
  completo : y.incompleto = decide (paquete.1.length < paquete.2.toNat)
  cierra : y.pc = .guardarMetadata → y.paginas = [] ∧
    (y.exitosas = true → paquete.2.toNat ≤ paquete.1.length)
  pendientes : y.pendientes = movidas.map pendienteDe
  carpeta : ∃ l, s.carpetas.lookup f = some { c with logicos := l } ∧ ∀ j, l.lookup j =
    if sinLink y = some j then none else (ponerTodos c.blocks (movidas.map movimiento))[j]?

def porEscribir (y : Flush) : List EscrituraPendiente :=
  match y.pc with
  | .escribirFinal e => e :: y.pendientes
  | _ => y.pendientes

def EnCierre (y : Flush) : Prop :=
  match y.pc with
  | .abrirFinal | .escribirFinal _ => True
  | .persistir => y.pendientes = [] ∧ y.exitosas = true
  | .fin ok => y.pendientes = [] ∧ y.exitosas = ok
  | _ => False

structure Escribe (sb : Superbloque) (f : FileTag) (paquete : Paquete) (c : Carpeta)
    (movidas : List (Pagina × Nat)) (y : Flush) (s : Storage Hash) : Prop where
  cierre : EnCierre y
  rango : ∀ m ∈ movidas, EnRango sb c m.1.1
  orden : (movidas.map Prod.fst).Sublist (pedidas paquete)
  todas : y.exitosas = true →
    movidas.map Prod.fst = pedidas paquete ∧ paquete.2.toNat ≤ paquete.1.length
  escritas : ∃ hechas faltan, movidas = hechas ++ faltan ∧
    porEscribir y = faltan.map pendienteDe ∧
    ∀ m ∈ hechas, (s.datos m.2).take sb.tamanioBloque = m.1.2
  carpeta : ∃ l, s.carpetas.lookup f = some ⟨c.tamanio, c.estado,
      if y.exitosas then ponerTodos c.blocks (movidas.map movimiento) else c.blocks, l⟩ ∧
    ∀ j, l.lookup j = (ponerTodos c.blocks (movidas.map movimiento))[j]?

/-- Where the FLUSH of f is, from the folder it found in s₀. -/
inductive Fase (sb : Superbloque) (s₀ : Storage Hash) (f : FileTag) (paquete : Paquete)
    (s : Storage Hash) : List (Pagina × Nat) → Flush → Prop where
  | access (igual : s.carpetas.lookup f = s₀.carpetas.lookup f) :
      Fase sb s₀ f paquete s [] (Flush.inicial paquete.1 paquete.2)
  | verificar (igual : s.carpetas.lookup f = s₀.carpetas.lookup f)
      (libre : esProtegido f = false) : Fase sb s₀ f paquete s []
        { Flush.inicial paquete.1 paquete.2 with pc := .verificarEstado }
  | abrir (igual : s.carpetas.lookup f = s₀.carpetas.lookup f) (libre : esProtegido f = false)
      (enCurso : verificarSiCommited s₀ f = false) : Fase sb s₀ f paquete s []
        { Flush.inicial paquete.1 paquete.2 with pc := .abrirMetadata }
  | rechazado (igual : s.carpetas.lookup f = s₀.carpetas.lookup f) (y : Flush)
      (hpc : y.pc = .fin false) : Fase sb s₀ f paquete s [] y
  | prepara (c : Carpeta) (abierta : Abierta s₀ f c) {movidas : List (Pagina × Nat)} {y : Flush}
      (va : Prepara sb f paquete c movidas y s) : Fase sb s₀ f paquete s movidas y
  | escribe (c : Carpeta) (abierta : Abierta s₀ f c) {movidas : List (Pagina × Nat)} {y : Flush}
      (va : Escribe sb f paquete c movidas y s) : Fase sb s₀ f paquete s movidas y

/-- What a FLUSH knows of the disk: what was in use before is there as it was, and the blocks
    it took were free. -/
structure Disco (s₀ : Storage Hash) (movidas : List (Pagina × Nat)) (y : Flush)
    (s : Storage Hash) : Prop where
  previos : ∀ b, s₀.bitmap b = true → s.bitmap b = true ∧ s.datos b = s₀.datos b
  existe : ∀ b, s₀.existe b = true → s.existe b = true
  tomados : ∀ b, Tiene movidas y b → s.bitmap b = true ∧ s₀.bitmap b = false
  creados : ∀ b, b ∈ movidas.map Prod.snd ∨ creado y = some b → s.existe b = true
  distintos : (movidas.map Prod.snd ++ (enManosFlush y).toList).Nodup

structure Hilo (sb : Superbloque) (s₀ : Storage Hash) (f : FileTag) (paquete : Paquete)
    (movidas : List (Pagina × Nat)) (y : Flush) (s : Storage Hash) : Prop where
  disco : Disco s₀ movidas y s
  fase : Fase sb s₀ f paquete s movidas y

structure Guarda (f : FileTag) (mios : Nat → Prop) (s s' : Storage Hash) : Prop where
  otras : ∀ g, g ≠ f → s'.carpetas.lookup g = s.carpetas.lookup g
  bits : ∀ b, s.bitmap b = true → s'.bitmap b = true
  existe : ∀ b, s.existe b = true → s'.existe b = true
  datos : ∀ b, ¬ mios b → s'.datos b = s.datos b

theorem guarda_refl (f : FileTag) (mios : Nat → Prop) (s : Storage Hash) : Guarda f mios s s :=
  ⟨fun _ _ => rfl, fun _ h => h, fun _ h => h, fun _ _ => rfl⟩

variable {movidas' : List (Pagina × Nat)} {mios : Nat → Prop}

theorem disco_sigue (h : Disco s₀ movidas y s) (step : Guarda f mios s s')
    (fresh : ∀ b, mios b → s₀.bitmap b = false)
    (tiene : ∀ b, Tiene movidas' y' b →
      Tiene movidas y b ∨ s.bitmap b = false ∧ s'.bitmap b = true)
    (creados : ∀ b, b ∈ movidas'.map Prod.snd ∨ creado y' = some b → s'.existe b = true)
    (distintos : (movidas'.map Prod.snd ++ (enManosFlush y').toList).Nodup) :
    Disco s₀ movidas' y' s' := by
  refine ⟨?_, fun b there => step.existe b (h.existe b there), ?_, creados, distintos⟩
  · intro b used
    obtain ⟨still, same⟩ := h.previos b used
    refine ⟨step.bits b still, (step.datos b fun mine => ?_).trans same⟩
    rw [fresh b mine] at used
    contradiction
  · intro b has
    rcases tiene b has with before | ⟨free, taken⟩
    · exact ⟨step.bits b (h.tomados b before).1, (h.tomados b before).2⟩
    · refine ⟨taken, ?_⟩
      by_contra used
      rw [(h.previos b (by simpa using used)).1] at free
      contradiction

theorem hilo_ajeno {movidas₁ : List (Pagina × Nat)} {y₁ : Flush} (ne : f ≠ g)
    (step : Guarda f (Tiene movidas₁ y₁) s s') (theirs : Disco s₀ movidas₁ y₁ s)
    (h : Hilo sb s₀ g paquete movidas y s)
    (apart : ∀ b, Tiene movidas₁ y₁ b → ¬ Tiene movidas y b) :
    Hilo sb s₀ g paquete movidas y s' := by
  have folder := step.otras g (Ne.symm ne)
  refine ⟨disco_sigue h.disco step (fun b mine => (theirs.tomados b mine).2)
    (fun b mine => .inl mine) (fun b made => step.existe b (h.disco.creados b made))
    h.disco.distintos, ?_⟩
  cases h.fase with
  | access same => exact .access (folder.trans same)
  | verificar same unprotected => exact .verificar (folder.trans same) unprotected
  | abrir same unprotected open_ => exact .abrir (folder.trans same) unprotected open_
  | rechazado same y hpc => exact .rechazado (folder.trans same) y hpc
  | prepara c open_ va =>
    exact .prepara c open_ { va with carpeta := folder ▸ va.carpeta }
  | escribe c open_ va =>
    refine .escribe c open_ { va with carpeta := folder ▸ va.carpeta, escritas := ?_ }
    obtain ⟨done, left, split, todo, held⟩ := va.escritas
    refine ⟨done, left, split, todo, fun m hm => ?_⟩
    rw [step.datos m.2 fun foreign => ?_]
    · exact held m hm
    · refine apart m.2 foreign (.inl ?_)
      rw [split]
      exact List.mem_map_of_mem (List.mem_append_left _ hm)

structure Avanza (sb : Superbloque) (s₀ : Storage Hash) (f : FileTag) (paquete : Paquete)
    (movidas : List (Pagina × Nat)) (y : Flush) (s : Storage Hash) (r : Flush × Storage Hash) :
    Prop where
  guarda : Guarda f (Tiene movidas y) s r.2
  hilo : ∃ movidas', Hilo sb s₀ f paquete movidas' r.1 r.2 ∧
    ∀ b, Tiene movidas' r.1 b → Tiene movidas y b ∨ s.bitmap b = false

theorem avanza_sigue (h : Hilo sb s₀ f paquete movidas y s)
    (step : Guarda f (Tiene movidas y) s s')
    (manos : enManosFlush y' = enManosFlush y ∨ enManosFlush y' = none)
    (abierto : ∀ b, creado y' = some b → s'.existe b = true)
    (fase : Fase sb s₀ f paquete s' movidas y') :
    Avanza sb s₀ f paquete movidas y s (y', s') := by
  have has : ∀ b, Tiene movidas y' b → Tiene movidas y b := by
    intro b mine
    rcases mine with moved | held
    · exact .inl moved
    · rcases manos with same | none_
      · exact .inr (same ▸ held)
      · rw [none_] at held
        contradiction
  refine ⟨step, movidas, ⟨?_, fase⟩, fun b mine => .inl (has b mine)⟩
  refine disco_sigue h.disco step (fun b mine => (h.disco.tomados b mine).2)
    (fun b mine => .inl (has b mine)) ?_ ?_
  · rintro b (moved | made)
    · exact step.existe b (h.disco.creados b (.inl moved))
    · exact abierto b made
  · rcases manos with same | none_
    · rw [same]
      exact h.disco.distintos
    · rw [none_]
      simpa using h.disco.distintos.of_append_left

theorem avanza_mira (h : Hilo sb s₀ f paquete movidas y s)
    (manos : enManosFlush y' = enManosFlush y ∨ enManosFlush y' = none)
    (abierto : ∀ b, creado y' = some b → creado y = some b)
    (fase : Fase sb s₀ f paquete s movidas y') :
    Avanza sb s₀ f paquete movidas y s (y', s) :=
  avanza_sigue h (guarda_refl f _ s) manos
    (fun b made => h.disco.creados b (.inr (abierto b made))) fase

theorem bloque_previo (ini : Consistente sb s₀) (hc : s₀.carpetas.lookup f = some c)
    (hb : b ∈ c.blocks) : s₀.bitmap b = true ∧ s₀.existe b = true := by
  obtain ⟨i, hi⟩ := List.mem_iff_getElem?.mp hb
  have hd : s₀.destino f i = some b := (destino_listado (ini.acorde f c hc).1 hc i).trans hi
  exact ⟨ini.uso f i b hd, ini.sano.fisicos f i b hd⟩

theorem prepara_falla (va : Prepara sb f paquete c movidas y s) {resto : List Pagina}
    (linked : sinLink y = none)
    (fewer : resto.Sublist ((enTurno y).toList.map paginaDe ++ y.paginas)) :
    Prepara sb f paquete c movidas (Flush.falla { y with paginas := resto }) s where
  bucle := trivial
  metadata := va.metadata
  cantidad := va.cantidad
  turno := fun p hp => by contradiction
  rango := va.rango
  orden := by
    refine .trans ?_ va.orden
    simp only [enTurno, Flush.falla, Option.toList_none, List.map_nil, List.append_nil,
      List.append_assoc]
    exact (List.Sublist.refl _).append fewer
  todas := fun ok => by contradiction
  completo := va.completo
  cierra := fun hpc => by contradiction
  pendientes := va.pendientes
  carpeta := by
    obtain ⟨l, hl, at_⟩ := va.carpeta
    rw [linked] at at_
    exact ⟨l, hl, at_⟩

theorem prepara_sigue (va : Prepara sb f paquete c movidas y s) {pc : PasoFlush}
    (folder : s'.carpetas.lookup f = s.carpetas.lookup f)
    (bucle : EnBucle { y with pc := pc }) (open_ : pc ≠ .guardarMetadata)
    (turno : enTurno { y with pc := pc } = enTurno y)
    (linked : sinLink { y with pc := pc } = sinLink y) :
    Prepara sb f paquete c movidas { y with pc := pc } s' where
  bucle := bucle
  metadata := va.metadata
  cantidad := va.cantidad
  turno := fun p hp => va.turno p (turno.symm.trans hp)
  rango := va.rango
  orden := by
    rw [turno]
    exact va.orden
  todas := by
    rw [turno]
    exact va.todas
  completo := va.completo
  cierra := fun hpc => (open_ hpc).elim
  pendientes := va.pendientes
  carpeta := by
    rw [linked, folder]
    exact va.carpeta

theorem link_presente (ini : Consistente sb s₀) (open_ : Abierta s₀ f c)
    (disk : Disco s₀ movidas y s) (va : Prepara sb f paquete c movidas y s)
    (linked : sinLink y = none) {i : Nat} (inside : i < c.blocks.length) :
    ∃ b, s.destino f i = some b ∧ s.existe b = true := by
  obtain ⟨l, hl, at_⟩ := va.carpeta
  have bound : i < (ponerTodos c.blocks (movidas.map movimiento)).length := by
    rwa [ponerTodos_length]
  obtain ⟨b, entry⟩ : ∃ b, (ponerTodos c.blocks (movidas.map movimiento))[i]? = some b :=
    ⟨_, List.getElem?_eq_getElem bound⟩
  have link := at_ i
  simp only [linked, reduceCtorEq, if_false] at link
  refine ⟨b, (destino_of_lookup hl).trans (link.trans entry), ?_⟩
  rcases ponerTodos_mem (List.mem_of_getElem? entry) with old | new
  · exact disk.existe b (bloque_previo ini open_.esta old).2
  · rw [List.map_map] at new
    exact disk.creados b (.inl new)

theorem avanza_statLogico (ini : Consistente sb s₀) (open_ : Abierta s₀ f c)
    (h : Hilo sb s₀ f paquete movidas y s) (va : Prepara sb f paquete c movidas y s)
    (hpc : y.pc = .statLogico) : Avanza sb s₀ f paquete movidas y s (pasoFlush sb f y s) := by
  have idle : enTurno y = none := by rw [enTurno, hpc]
  have linked : sinLink y = none := by rw [sinLink, hpc]
  have orden := va.orden
  have todas := va.todas
  simp only [idle, Option.toList_none, List.map_nil, List.append_nil] at orden todas
  unfold pasoFlush
  simp only [hpc]
  split
  · -- no page is left
    rename_i none_
    rw [none_] at orden todas
    refine avanza_mira h (.inr rfl) (fun b made => by contradiction) (.prepara c open_ ?_)
    refine { va with bucle := trivial, turno := ?_, orden := ?_, todas := ?_, cierra := ?_,
                     carpeta := ?_ }
    · exact fun p hp => by contradiction
    · simpa [enTurno, none_] using orden
    · intro ok
      rw [Bool.and_eq_true] at ok
      simpa [enTurno, none_] using todas ok.1
    · intro _
      refine ⟨none_, fun ok => ?_⟩
      rw [Bool.and_eq_true, va.completo] at ok
      simpa using ok.2
    · obtain ⟨l, hl, at_⟩ := va.carpeta
      rw [linked] at at_
      exact ⟨l, hl, at_⟩
  · rename_i pagina resto more
    rw [more] at orden todas
    have pass : Avanza sb s₀ f paquete movidas y s
        (Flush.falla { y with paginas := resto }, s) := by
      refine avanza_mira h (.inr rfl) (fun b made => by contradiction) (.prepara c open_ ?_)
      refine prepara_falla va linked ?_
      rw [idle, more]
      exact List.sublist_cons_self _ _
    split
    · exact pass
    rename_i range
    split
    · exact pass
    rename_i short
    rw [va.metadata] at range short
    have inRange : EnRango sb c pagina.1 := ⟨range, Nat.lt_of_not_le short⟩
    obtain ⟨b, hd, he⟩ := link_presente ini open_ h.disco va linked inRange.2
    simp only [hd, if_neg (nlink_ne_one_of_link hd he)]
    have number : ((pagina.1.toNat : Nat) : Int) = pagina.1 := by
      have low := inRange.1
      omega
    refine avanza_mira h (.inr rfl) (fun b made => by contradiction) (.prepara c open_ ?_)
    refine { va with bucle := trivial, turno := ?_, orden := ?_, todas := ?_, cierra := ?_,
                     carpeta := ?_ }
    · intro p hp
      cases hp
      rw [va.metadata, number]
      exact ⟨inRange, rfl⟩
    · simpa [enTurno, paginaDe, number] using orden
    · intro ok
      simpa [enTurno, paginaDe, number] using todas ok
    · exact fun hpc => by contradiction
    · obtain ⟨l, hl, at_⟩ := va.carpeta
      rw [linked] at at_
      exact ⟨l, hl, at_⟩

theorem avanza_reservar (open_ : Abierta s₀ f c) (h : Hilo sb s₀ f paquete movidas y s)
    (va : Prepara sb f paquete c movidas y s) {p : EnTurno} (hpc : y.pc = .reservar p) :
    Avanza sb s₀ f paquete movidas y s (pasoFlush sb f y s) := by
  have turn : enTurno y = some p := by rw [enTurno, hpc]
  have linked : sinLink y = none := by rw [sinLink, hpc]
  have hands : enManosFlush y = none := by rw [enManosFlush, hpc]
  unfold pasoFlush
  simp only [hpc]
  split
  · refine avanza_mira h (.inr rfl) (fun b made => by contradiction) (.prepara c open_ ?_)
    exact prepara_falla va linked (List.sublist_append_right _ _)
  · rename_i n hn
    have free : s.bitmap n = false := (firstFree_some hn).2.2
    have set_ : ∀ b, s.bitmap b = true → (s.ocupar n).bitmap b = true := by
      intro b used
      simp only [Storage.ocupar, Function.update_apply]
      split
      · rfl
      · exact used
    have mine : ∀ b, Tiene movidas { y with pc := .abrirOrigen p n } b →
        Tiene movidas y b ∨ s.bitmap b = false ∧ (s.ocupar n).bitmap b = true := by
      rintro b (moved | held)
      · exact .inl (.inl moved)
      · cases held
        exact .inr ⟨free, by simp [Storage.ocupar]⟩
    have guards : Guarda f (Tiene movidas y) s (s.ocupar n) :=
      ⟨fun _ _ => rfl, set_, fun _ h => h, fun _ _ => rfl⟩
    refine ⟨guards, movidas, ⟨?_, .prepara c open_ ?_⟩, fun b has => (mine b has).imp_right
      And.left⟩
    · refine disco_sigue h.disco guards (fun b mine => (h.disco.tomados b mine).2) mine ?_ ?_
      · rintro b (moved | made)
        · exact h.disco.creados b (.inl moved)
        · contradiction
      · -- its bit was clear, so no page moved before has it
        have old := h.disco.distintos
        rw [hands] at old
        simp only [Option.toList_none, List.append_nil] at old
        refine List.nodup_append.mpr ⟨old, List.nodup_singleton n, ?_⟩
        rintro a moved b held rfl
        obtain rfl := List.mem_singleton.mp held
        rw [(h.disco.tomados a (.inl moved)).1] at free
        contradiction
    · exact prepara_sigue va rfl trivial PasoFlush.noConfusion turn.symm linked.symm

theorem guarda_datos (s : Storage Hash) (hands : enManosFlush y = some n) (contenido : Bytes) :
    Guarda f (Tiene movidas y) s { s with datos := Function.update s.datos n contenido } := by
  refine ⟨fun _ _ => rfl, fun _ h => h, fun _ h => h, fun b other => ?_⟩
  exact Function.update_of_ne (by rintro rfl; exact other (.inr hands)) _ _

theorem avanza_copia (ini : Consistente sb s₀) (open_ : Abierta s₀ f c)
    (h : Hilo sb s₀ f paquete movidas y s) (va : Prepara sb f paquete c movidas y s)
    {p : EnTurno} (hpc : y.pc = .abrirOrigen p n ∨ y.pc = .abrirDestino p n true ∨
      y.pc = .leer p n ∨ ∃ buffer, y.pc = .escribirCopia p n buffer) :
    Avanza sb s₀ f paquete movidas y s (pasoFlush sb f y s) := by
  have turn : enTurno y = some p := by
    rcases hpc with hpc | hpc | hpc | ⟨_, hpc⟩ <;> rw [enTurno, hpc]
  have linked : sinLink y = none := by
    rcases hpc with hpc | hpc | hpc | ⟨_, hpc⟩ <;> rw [sinLink, hpc]
  have hands : enManosFlush y = some n := by
    rcases hpc with hpc | hpc | hpc | ⟨_, hpc⟩ <;> rw [enManosFlush, hpc]
  obtain ⟨range, actual⟩ := va.turno p turn
  unfold pasoFlush
  rcases hpc with hpc | hpc | hpc | ⟨buffer, hpc⟩
  · -- abrirOrigen: the block of the metadata was there before
    have source : s.existe p.actual = true := by
      have entry : p.actual ∈ c.blocks := by
        have inside : p.i < c.blocks.length := range.2
        have entry : c.blocks.getD p.i 0 = c.blocks[p.i] := by simp [inside]
        rw [actual, entry]
        exact List.getElem_mem inside
      exact h.disco.existe _ (bloque_previo ini open_.esta entry).2
    simp only [hpc, source]
    exact avanza_mira h (.inl hands.symm) (fun b made => by contradiction) (.prepara c open_
      (prepara_sigue va rfl trivial PasoFlush.noConfusion turn.symm linked.symm))
  · -- abrirDestino
    simp only [hpc, if_true]
    have guards : Guarda f (Tiene movidas y) s (s.abrirVacio n) := by
      refine ⟨fun _ _ => rfl, fun _ h => h, fun b there => ?_, fun b other => ?_⟩
      · simp only [Storage.abrirVacio, Function.update_apply]
        split
        · rfl
        · exact there
      · exact Function.update_of_ne (by rintro rfl; exact other (.inr hands)) _ _
    refine avanza_sigue h guards (.inl hands.symm) (fun b made => ?_) (.prepara c open_
      (prepara_sigue va rfl trivial PasoFlush.noConfusion turn.symm linked.symm))
    cases made
    simp [Storage.abrirVacio]
  · -- leer
    have made : creado y = some n := by rw [creado, hpc]
    simp only [hpc]
    exact avanza_mira h (.inl hands.symm) (fun b hb => made.trans hb) (.prepara c open_
      (prepara_sigue va rfl trivial PasoFlush.noConfusion turn.symm linked.symm))
  · -- escribirCopia
    have made : creado y = some n := by rw [creado, hpc]
    simp only [hpc]
    refine avanza_sigue h (guarda_datos s hands buffer) (.inl hands.symm) (fun b hb => ?_)
      (.prepara c open_
        (prepara_sigue va rfl trivial PasoFlush.noConfusion turn.symm linked.symm))
    exact h.disco.creados b (.inr (made.trans hb))

theorem avanza_unlink (ini : Consistente sb s₀) (open_ : Abierta s₀ f c)
    (h : Hilo sb s₀ f paquete movidas y s) (va : Prepara sb f paquete c movidas y s)
    {p : EnTurno} (hpc : y.pc = .unlinkLogico p n) :
    Avanza sb s₀ f paquete movidas y s (pasoFlush sb f y s) := by
  have turn : enTurno y = some p := by rw [enTurno, hpc]
  have linked : sinLink y = none := by rw [sinLink, hpc]
  have hands : enManosFlush y = some n := by rw [enManosFlush, hpc]
  have made : creado y = some n := by rw [creado, hpc]
  obtain ⟨range, _⟩ := va.turno p turn
  obtain ⟨b, hd, _⟩ := link_presente ini open_ h.disco va linked range.2
  obtain ⟨l, hl, at_⟩ := va.carpeta
  rw [Int.toNat_natCast] at hd
  unfold pasoFlush
  simp only [hpc, desenlazar_eq_some hl ((destino_of_lookup hl).symm.trans hd)]
  have guards : Guarda f (Tiene movidas y) s
      (s.ponerCarpeta f { c with logicos := l.erase p.i }) :=
    ⟨fun g hg => by rw [lookup_ponerCarpeta, if_neg hg], fun _ h => h, fun _ h => h,
      fun _ _ => rfl⟩
  refine avanza_sigue h guards (.inl hands.symm)
    (fun b hb => h.disco.creados b (.inr (made.trans hb))) (.prepara c open_ ?_)
  refine { va with bucle := trivial, turno := fun q hq => va.turno q (turn.trans hq),
                   orden := ?_, todas := ?_, cierra := fun hpc => by contradiction,
                   carpeta := ?_ }
  · have orden := va.orden
    rw [turn] at orden
    exact orden
  · have todas := va.todas
    rw [turn] at todas
    exact todas
  · refine ⟨l.erase p.i, (lookup_ponerCarpeta _ _ _ _).trans (if_pos rfl), fun j => ?_⟩
    simp only [linked, reduceCtorEq, if_false] at at_
    rw [lookup_erase_ite, at_]
    simp only [sinLink, Option.some.injEq, eq_comm]

theorem avanza_link (open_ : Abierta s₀ f c) (h : Hilo sb s₀ f paquete movidas y s)
    (va : Prepara sb f paquete c movidas y s) {p : EnTurno} (hpc : y.pc = .link p n) :
    Avanza sb s₀ f paquete movidas y s (pasoFlush sb f y s) := by
  have turn : enTurno y = some p := by rw [enTurno, hpc]
  have gap : sinLink y = some p.i := by rw [sinLink, hpc]
  have hands : enManosFlush y = some n := by rw [enManosFlush, hpc]
  have made : creado y = some n := by rw [creado, hpc]
  obtain ⟨l, hl, at_⟩ := va.carpeta
  rw [gap] at at_
  have free : l.lookup p.i = none := (at_ p.i).trans (if_pos rfl)
  have there := h.disco.creados n (.inr made)
  have orden := va.orden
  have todas := va.todas
  simp only [turn, Option.toList_some, List.map_cons, List.map_nil, List.append_assoc]
    at orden todas
  unfold pasoFlush
  simp only [hpc, enlazar_eq_some hl there free]
  have guards : Guarda f (Tiene movidas y) s
      (s.ponerCarpeta f { c with logicos := l.insert p.i n }) :=
    ⟨fun g hg => by rw [lookup_ponerCarpeta, if_neg hg], fun _ h => h, fun _ h => h,
      fun _ _ => rfl⟩
  have mine : ∀ b, Tiene (movidas ++ [(paginaDe p, n)])
      (y.lista ⟨n, p.contenido, p.i, some n⟩) b → Tiene movidas y b := by
    rintro b (moved | held)
    · rw [List.map_append, List.mem_append] at moved
      rcases moved with old | new
      · exact .inl old
      · obtain rfl := List.mem_singleton.mp new
        exact .inr hands
    · contradiction
  refine ⟨guards, movidas ++ [(paginaDe p, n)], ⟨?_, .prepara c open_ ?_⟩,
    fun b has => .inl (mine b has)⟩
  · refine disco_sigue h.disco guards (fun b mine => (h.disco.tomados b mine).2)
      (fun b has => .inl (mine b has)) ?_ ?_
    · rintro b (moved | made)
      · rcases mine b (.inl moved) with old | held
        · exact h.disco.creados b (.inl old)
        · exact h.disco.creados b (.inr (made.trans (hands.symm.trans held)))
      · contradiction
    · have old := h.disco.distintos
      rw [hands] at old
      simpa [Flush.lista, enManosFlush] using old
  · refine { va with bucle := trivial, turno := fun q hq => by contradiction, rango := ?_,
                     orden := ?_, todas := ?_, cierra := fun hpc => by contradiction,
                     pendientes := ?_, carpeta := ?_ }
    · intro m hm
      rcases List.mem_append.mp hm with old | new
      · exact va.rango m old
      · rw [List.mem_singleton.mp new]
        exact (va.turno p turn).1
    · simpa [Flush.lista, enTurno] using orden
    · intro ok
      simpa [Flush.lista, enTurno] using todas ok
    · simp [Flush.lista, va.pendientes, pendienteDe, paginaDe]
    · refine ⟨l.insert p.i n, (lookup_ponerCarpeta _ _ _ _).trans (if_pos rfl), fun j => ?_⟩
      have bound : p.i < (ponerTodos c.blocks (movidas.map movimiento)).length := by
        rw [ponerTodos_length]
        exact (va.turno p turn).1.2
      rw [lookup_insert_ite, at_, List.map_append, List.map_singleton, ponerTodos_append]
      simp only [sinLink, Flush.lista, reduceCtorEq, if_false, movimiento, paginaDe,
        Int.toNat_natCast, List.getElem?_set, Option.some.injEq]
      by_cases same : p.i = j
      · subst same
        simp [bound]
      · simp [same, Ne.symm same]

theorem aEscribir_cierre (y : Flush) :
    EnCierre y.aEscribir ∧ porEscribir y.aEscribir = y.pendientes := by
  cases hp : y.pendientes with
  | nil => cases he : y.exitosas <;> simp [Flush.aEscribir, hp, he, EnCierre, porEscribir]
  | cons e rest => simp [Flush.aEscribir, hp, EnCierre, porEscribir]

theorem aEscribir_creado (y : Flush) (b : Nat) (made : creado y.aEscribir = some b) :
    s.existe b = true := by
  rw [(sinManos_aEscribir y).creado] at made
  contradiction

theorem avanza_guardarMetadata (open_ : Abierta s₀ f c) (h : Hilo sb s₀ f paquete movidas y s)
    (va : Prepara sb f paquete c movidas y s) (hpc : y.pc = .guardarMetadata) :
    Avanza sb s₀ f paquete movidas y s (pasoFlush sb f y s) := by
  have idle : enTurno y = none := by rw [enTurno, hpc]
  have linked : sinLink y = none := by rw [sinLink, hpc]
  obtain ⟨none_, complete⟩ := va.cierra hpc
  have orden := va.orden
  have todas := va.todas
  simp only [idle, none_, Option.toList_none, List.map_nil, List.append_nil] at orden todas
  obtain ⟨l, hl, at_⟩ := va.carpeta
  simp only [linked, reduceCtorEq, if_false] at at_
  obtain ⟨ends, todo⟩ := aEscribir_cierre y
  have closes : ∀ s' : Storage Hash, (∃ l, s'.carpetas.lookup f = some ⟨c.tamanio, c.estado,
        if y.exitosas then ponerTodos c.blocks (movidas.map movimiento) else c.blocks, l⟩ ∧
      ∀ j, l.lookup j = (ponerTodos c.blocks (movidas.map movimiento))[j]?) →
      Escribe sb f paquete c movidas y.aEscribir s' := fun s' folder =>
    ⟨ends, va.rango, orden, fun ok => ⟨todas ok, complete ok⟩,
      ⟨[], movidas, rfl, todo.trans va.pendientes, fun m hm => by contradiction⟩, folder⟩
  unfold pasoFlush
  simp only [hpc]
  split
  · rename_i saved
    have after : (guardarBlocks s f (actualizarBlocks y.metadata.blocks y.pendientes)) =
        s.ponerCarpeta f
          ⟨c.tamanio, c.estado, ponerTodos c.blocks (movidas.map movimiento), l⟩ := by
      simp only [guardarBlocks, hl, va.metadata, va.pendientes, actualizarBlocks_eq]
    rw [after]
    have guards : Guarda f (Tiene movidas y) s (s.ponerCarpeta f
        ⟨c.tamanio, c.estado, ponerTodos c.blocks (movidas.map movimiento), l⟩) :=
      ⟨fun g hg => by rw [lookup_ponerCarpeta, if_neg hg], fun _ h => h, fun _ h => h,
        fun _ _ => rfl⟩
    refine avanza_sigue h guards (.inr (sinManos_aEscribir y).manos)
      (fun b made => aEscribir_creado y b made) (.escribe c open_ (closes _ ⟨l, ?_, at_⟩))
    rw [lookup_ponerCarpeta, if_pos rfl, if_pos saved.2.1]
  · rename_i skip
    refine avanza_mira h (.inr (sinManos_aEscribir y).manos) (fun b made => ?_)
      (.escribe c open_ (closes s ⟨l, ?_, at_⟩))
    · rw [(sinManos_aEscribir y).creado] at made
      contradiction
    · rw [hl]
      cases ok : y.exitosas with
      | false => rfl
      | true =>
        -- nothing was saved because no page was moved
        have still : movidas = [] := by
          by_contra some_
          obtain ⟨m, rest, rfl⟩ := List.exists_cons_of_ne_nil some_
          refine skip ⟨?_, ok, by rw [va.pendientes]; rfl⟩
          rw [va.cantidad]
          by_contra none_
          have zero : paquete.2.toNat = 0 := by omega
          have all := todas ok
          rw [pedidas, zero, List.take_zero] at all
          contradiction
        simp [still, ponerTodos]

-- the block is written whole, and the ones written before are others
theorem escritas_una {m : Pagina × Nat} {hechas faltan : List (Pagina × Nat)}
    (split_ : movidas = hechas ++ m :: faltan) (distinct : (movidas.map Prod.snd).Nodup)
    (size : m.1.2.length = sb.tamanioBloque)
    (held : ∀ m' ∈ hechas, (s.datos m'.2).take sb.tamanioBloque = m'.1.2) :
    ∀ m' ∈ hechas ++ [m], (Function.update s.datos m.2 (m.1.2.take sb.tamanioBloque ++
        (s.datos m.2).drop (m.1.2.take sb.tamanioBloque).length) m'.2).take sb.tamanioBloque =
      m'.1.2 := by
  intro m' hm'
  by_cases same : m'.2 = m.2
  · have equal : m' = m := by
      rcases List.mem_append.mp hm' with old | new
      · rw [split_, List.map_append, List.nodup_append] at distinct
        exact (distinct.2.2 _ (List.mem_map_of_mem old) m.2 (by simp) same).elim
      · exact List.mem_singleton.mp new
    rw [equal, Function.update_self, List.take_of_length_le size.le, List.take_left' size]
  · rw [Function.update_of_ne same]
    rcases List.mem_append.mp hm' with old | new
    · exact held m' old
    · exact (same (congrArg Prod.snd (List.mem_singleton.mp new))).elim

theorem avanza_escribe (open_ : Abierta s₀ f c) (h : Hilo sb s₀ f paquete movidas y s)
    (va : Escribe sb f paquete c movidas y s)
    (sizes : ∀ p ∈ paquete.1, p.2.length = sb.tamanioBloque) :
    Avanza sb s₀ f paquete movidas y s (pasoFlush sb f y s) := by
  obtain ⟨done, left, split_, todo, held⟩ := va.escritas
  have cierre := va.cierre
  obtain ⟨ends, next⟩ := aEscribir_cierre y
  unfold pasoFlush
  split
  case h_16 =>
    -- abrirFinal
    rename_i hpc
    rw [porEscribir, hpc] at todo
    dsimp only at todo
    split
    · rename_i none_
      rw [none_] at todo
      refine avanza_mira h (.inr (sinManos_aEscribir y).manos) (fun b made => ?_)
        (.escribe c open_ { va with cierre := ends, escritas := ?_ })
      · rw [(sinManos_aEscribir y).creado] at made
        contradiction
      · exact ⟨done, left, split_, next.trans (none_.trans todo), held⟩
    · rename_i e resto more
      rw [more] at todo
      have here : e ∈ movidas.map pendienteDe := by
        rw [split_, List.map_append, ← todo]
        simp
      obtain ⟨m, hm, rfl⟩ := List.mem_map.mp here
      have there : s.existe (pendienteDe m).bloqueFinal = true :=
        h.disco.creados m.2 (.inl (List.mem_map_of_mem hm))
      rw [if_pos there]
      refine avanza_mira h (.inr rfl) (fun b made => by contradiction)
        (.escribe c open_ { va with cierre := trivial, escritas := ?_ })
      exact ⟨done, left, split_, todo, held⟩
  case h_17 =>
    -- escribirFinal
    rename_i e hpc
    rw [porEscribir, hpc] at todo
    dsimp only at todo
    obtain ⟨m, left', rfl, rfl, rest⟩ := List.map_eq_cons_iff.mp todo.symm
    have size : m.1.2.length = sb.tamanioBloque := by
      refine sizes m.1 (List.take_subset paquete.2.toNat _ (va.orden.subset ?_))
      rw [split_]
      simp
    have mine : m.2 ∈ movidas.map Prod.snd := by
      rw [split_]
      simp
    have guards : Guarda f (Tiene movidas y) s { s with
        datos := Function.update s.datos m.2 (m.1.2.take sb.tamanioBloque ++
          (s.datos m.2).drop (m.1.2.take sb.tamanioBloque).length) } := by
      refine ⟨fun _ _ => rfl, fun _ h => h, fun _ h => h, fun b other => ?_⟩
      exact Function.update_of_ne (by rintro rfl; exact other (.inl mine)) _ _
    refine avanza_sigue h guards (.inr (sinManos_aEscribir y).manos)
      (fun b made => aEscribir_creado y b made)
      (.escribe c open_ { va with cierre := ends, escritas := ?_ })
    exact ⟨done ++ [m], left', by simpa using split_, next.trans rest.symm,
      escritas_una split_ h.disco.distintos.of_append_left size held⟩
  case h_18 =>
    -- persistir
    rename_i hpc
    simp only [EnCierre, hpc] at cierre
    rw [porEscribir, hpc] at todo
    refine avanza_sigue h ⟨fun _ _ => rfl, fun _ h => h, fun _ h => h, fun _ _ => rfl⟩ (.inr rfl)
      (fun b made => by contradiction)
      (.escribe c open_ { va with cierre := cierre, escritas := ?_ })
    exact ⟨done, left, split_, todo, held⟩
  case h_19 =>
    -- fin
    rename_i ok hpc
    exact avanza_mira h (.inl rfl) (fun b made => made) (.escribe c open_ va)
  all_goals
    rename_i hpc
    simp only [EnCierre, hpc] at cierre

theorem avanza_prepara (ini : Consistente sb s₀) (open_ : Abierta s₀ f c)
    (h : Hilo sb s₀ f paquete movidas y s) (va : Prepara sb f paquete c movidas y s) :
    Avanza sb s₀ f paquete movidas y s (pasoFlush sb f y s) := by
  have loop := va.bucle
  cases hpc : y.pc with
  | statLogico => exact avanza_statLogico ini open_ h va hpc
  | reservar p => exact avanza_reservar open_ h va hpc
  | abrirOrigen p n => exact avanza_copia ini open_ h va (.inl hpc)
  | abrirDestino p n origen =>
    cases origen with
    | true => exact avanza_copia ini open_ h va (.inr (.inl hpc))
    | false => simp only [EnBucle, hpc] at loop
  | leer p n => exact avanza_copia ini open_ h va (.inr (.inr (.inl hpc)))
  | escribirCopia p n buffer => exact avanza_copia ini open_ h va (.inr (.inr (.inr ⟨buffer, hpc⟩)))
  | unlinkLogico p n => exact avanza_unlink ini open_ h va hpc
  | link p n => exact avanza_link open_ h va hpc
  | guardarMetadata => exact avanza_guardarMetadata open_ h va hpc
  | _ => simp only [EnBucle, hpc] at loop

theorem avanza (ini : Consistente sb s₀) (sizes : ∀ p ∈ paquete.1, p.2.length = sb.tamanioBloque)
    (h : Hilo sb s₀ f paquete movidas y s) :
    Avanza sb s₀ f paquete movidas y s (pasoFlush sb f y s) := by
  have commited : s.carpetas.lookup f = s₀.carpetas.lookup f →
      verificarSiCommited s f = verificarSiCommited s₀ f := by
    intro same
    simp only [verificarSiCommited, same]
  have reject (same : s.carpetas.lookup f = s₀.carpetas.lookup f) : Fase sb s₀ f paquete s []
      { Flush.inicial paquete.1 paquete.2 with pc := .fin false } :=
    .rechazado same _ rfl
  cases h.fase with
  | access same =>
    simp only [pasoFlush, Flush.inicial]
    split
    · exact avanza_mira h (.inl rfl) (fun b made => by contradiction) (reject same)
    · rename_i go
      exact avanza_mira h (.inl rfl) (fun b made => by contradiction)
        (.verificar same (by simpa using fun hp => go (.inl hp)))
  | verificar same unprotected =>
    simp only [pasoFlush, commited same]
    split
    · exact avanza_mira h (.inl rfl) (fun b made => by contradiction) (reject same)
    · rename_i open_
      exact avanza_mira h (.inl rfl) (fun b made => by contradiction)
        (.abrir same unprotected (by simpa using open_))
  | abrir same unprotected open_ =>
    simp only [pasoFlush, Flush.inicial]
    split
    · exact avanza_mira h (.inl rfl) (fun b made => by contradiction) (reject same)
    · rename_i c hc
      have abierta : Abierta s₀ f c := by
        refine ⟨unprotected, same.symm.trans hc, fun closed => ?_⟩
        simp [verificarSiCommited, same.symm.trans hc, closed] at open_
      refine avanza_mira h (.inl rfl) (fun b made => by contradiction) (.prepara c abierta ?_)
      refine ⟨trivial, rfl, rfl, fun p hp => by contradiction, fun m hm => by contradiction,
        .refl _, fun _ => rfl, rfl, fun hpc => by contradiction, rfl, ⟨c.logicos, hc, fun j => ?_⟩⟩
      simp only [sinLink, reduceCtorEq, if_false]
      exact (ini.acorde f c abierta.esta).1 j
  | rechazado same y hpc =>
    simp only [pasoFlush, hpc]
    exact avanza_mira h (.inl rfl) (fun b made => made) (.rechazado same y hpc)
  | prepara c open_ va => exact avanza_prepara ini open_ h va
  | escribe c open_ va => exact avanza_escribe open_ h va sizes

theorem disciplina (ini : Consistente sb s₀) {paquete : FileTag → Paquete}
    (sizes : ∀ f, ∀ p ∈ (paquete f).1, p.2.length = sb.tamanioBloque) :
    Discipline (pasoFlush sb)
      (fun f movidas y s => Hilo sb s₀ f (paquete f) movidas y s) Tiene
      (fun s b => s.bitmap b = true) where
  marked := fun own mine => (own.disco.tomados _ mine).1
  step := by
    intro f movidas y s own
    obtain ⟨movidas', after, news⟩ := (avanza ini (sizes f) own).hilo
    exact ⟨movidas', after, fun b mine => (news b mine).imp_right (by simp +contextual)⟩
  frame := by
    intro f g movidas₁ y₁ movidas y s ne own other apart
    exact hilo_ajeno ne (avanza ini (sizes f) own).guarda own.disco other apart

theorem hilo_inicial (s₀ : Storage Hash) (f : FileTag) (paquete : Paquete) :
    Hilo sb s₀ f paquete [] (Flush.inicial paquete.1 paquete.2) s₀ := by
  refine ⟨⟨fun b used => ⟨used, rfl⟩, fun b there => there, ?_, ?_, List.nodup_nil⟩, .access rfl⟩
  · rintro b (moved | held) <;> contradiction
  · rintro b (moved | made) <;> contradiction

theorem destino_hilo (ini : Consistente sb s₀) (h : Hilo sb s₀ f paquete movidas y s) {i : Nat}
    (hd : s.destino f i = some b) :
    s₀.bitmap b = true ∧ s₀.existe b = true ∨ b ∈ movidas.map Prod.snd := by
  have before : s.carpetas.lookup f = s₀.carpetas.lookup f →
      s₀.bitmap b = true ∧ s₀.existe b = true := by
    intro same
    have linked : s₀.destino f i = some b := by
      rw [Storage.destino, ← same]
      exact hd
    exact ⟨ini.uso f i b linked, ini.sano.fisicos f i b linked⟩
  have among : ∀ {c}, Abierta s₀ f c → (ponerTodos c.blocks (movidas.map movimiento))[i]? = some b →
      s₀.bitmap b = true ∧ s₀.existe b = true ∨ b ∈ movidas.map Prod.snd := by
    intro c open_ entry
    refine (ponerTodos_mem (List.mem_of_getElem? entry)).imp
      (fun old => bloque_previo ini open_.esta old) fun new => ?_
    rw [List.map_map] at new
    exact new
  cases h.fase with
  | access same => exact .inl (before same)
  | verificar same _ => exact .inl (before same)
  | abrir same _ _ => exact .inl (before same)
  | rechazado same y _ => exact .inl (before same)
  | prepara c open_ va =>
    obtain ⟨l, hl, at_⟩ := va.carpeta
    rw [destino_of_lookup hl, at_] at hd
    split at hd
    · contradiction
    · exact among open_ hd
  | escribe c open_ va =>
    obtain ⟨l, hl, at_⟩ := va.carpeta
    rw [destino_of_lookup hl, at_] at hd
    exact among open_ hd

theorem vista_igual (ini : Consistente sb s₀) (disk : Disco s₀ movidas y s)
    (same : s.carpetas.lookup g = s₀.carpetas.lookup g) : vista sb s g = vista sb s₀ g := by
  exact vista_congr same
    (leerBloque_congr same fun i b hd => (disk.previos b (ini.uso g i b hd)).2)

theorem fase_access (h : Fase sb s₀ f paquete s movidas y) (hpc : y.pc = .access) :
    s.carpetas.lookup f = s₀.carpetas.lookup f := by
  cases h with
  | access same => exact same
  | verificar same _ => exact same
  | abrir same _ _ => exact same
  | rechazado same y _ => exact same
  | prepara c open_ va =>
    have loop := va.bucle
    simp only [EnBucle, hpc] at loop
  | escribe c open_ va =>
    have ended := va.cierre
    simp only [EnCierre, hpc] at ended

theorem hilo_exito (ini : Consistente sb s₀)
    (sizes : ∀ p ∈ paquete.1, p.2.length = sb.tamanioBloque)
    (h : Hilo sb s₀ f paquete movidas y s) (hpc : y.pc = .fin true) :
    ∃ c, Abierta s₀ f c ∧ (∀ p ∈ pedidas paquete, EnRango sb c p.1) ∧
      paquete.2.toNat ≤ paquete.1.length ∧
      vista sb s f = some ((version sb s₀ f c).ponerPaginas (pedidas paquete)) := by
  cases h.fase with
  | access same => contradiction
  | verificar same _ => contradiction
  | abrir same _ _ => contradiction
  | rechazado same y other => cases hpc.symm.trans other
  | prepara c open_ va =>
    have loop := va.bucle
    simp only [EnBucle, hpc] at loop
  | escribe c open_ va =>
    have ended := va.cierre
    simp only [EnCierre, hpc] at ended
    obtain ⟨all, complete⟩ := va.todas ended.2
    obtain ⟨l, hl, at_⟩ := va.carpeta
    rw [if_pos ended.2] at hl
    obtain ⟨done, left, split_, todo, held⟩ := va.escritas
    simp only [porEscribir, hpc, ended.1] at todo
    obtain rfl := List.map_eq_nil_iff.mp todo.symm
    rw [List.append_nil] at split_
    subst split_
    refine ⟨c, open_, ?_, complete, ?_⟩
    · intro p hp
      obtain ⟨m, hm, rfl⟩ := List.mem_map.mp (all ▸ hp)
      exact va.rango m hm
    · refine (vista_ponerTodos (ini.acorde f c open_.esta) (sin_proteger_ne_inicial open_.libre)
        open_.esta hl at_ fun b hb => ?_).trans (congrArg some ?_)
      · exact (h.disco.previos b (bloque_previo ini open_.esta hb).1).2
      · rw [Version.ponerPaginas, ← all, List.map_map, List.map_map]
        refine congrArg _ (List.map_congr_left fun m hm => Prod.ext rfl (Subtype.ext ?_))
        have size := sizes m.1 (List.take_subset paquete.2.toNat _
          (all ▸ List.mem_map_of_mem hm : m.1 ∈ pedidas paquete))
        simp only [Function.comp_apply, movimiento, entero, held m hm, size,
          List.take_of_length_le size.le]

/-- Any number of FLUSHes in any order of their steps: no block in use is free or without its
    file, none is reserved twice or reserved while in use, a FLUSH that ended well left in its
    File:Tag just the pages of its packet, and who takes no step keeps what it had. -/
theorem flushes_separados (ini : Consistente sb s₀) {paquete : FileTag → Paquete}
    (sizes : ∀ f, ∀ p ∈ (paquete f).1, p.2.length = sb.tamanioBloque) (orden : List FileTag) :
    let x := (inicial s₀ paquete).run (pasoFlush sb) orden
    BloquesEnUso x.shared ∧
      (∀ f n, enManosFlush (x.locals f) = some n → ¬ x.shared.Enlazado n ∧
        ∀ g, g ≠ f → enManosFlush (x.locals g) ≠ some n) ∧
      (∀ f, (x.locals f).pc = .fin true → ∃ c, Abierta s₀ f c ∧
        (∀ p ∈ pedidas (paquete f), EnRango sb c p.1) ∧
        (paquete f).2.toNat ≤ (paquete f).1.length ∧
        vista sb x.shared f = some ((version sb s₀ f c).ponerPaginas (pedidas (paquete f)))) ∧
      ∀ f, f ∉ orden → vista sb x.shared f = vista sb s₀ f := by
  intro x
  have start : Apart (fun f movidas y s => Hilo sb s₀ f (paquete f) movidas y s) Tiene
      (inicial s₀ paquete) fun _ => [] :=
    ⟨fun f => hilo_inicial s₀ f (paquete f), fun f g _ b mine => by
      rcases mine with moved | held <;> contradiction⟩
  obtain ⟨movidas, own, apart⟩ := apart_run (disciplina ini sizes) start orden
  refine ⟨?_, ?_, fun f ended => hilo_exito ini (sizes f) (own f) ended, ?_⟩
  · rintro b ⟨f, i, hd⟩
    rcases destino_hilo ini (own f) hd with ⟨used, there⟩ | taken
    · exact ⟨((own f).disco.previos b used).1, (own f).disco.existe b there⟩
    · exact ⟨((own f).disco.tomados b (.inl taken)).1, (own f).disco.creados b (.inl taken)⟩
  · intro f n held
    refine ⟨?_, fun g ne theirs => apart f g (Ne.symm ne) n (.inr held) (.inr theirs)⟩
    rintro ⟨g, i, hd⟩
    rcases destino_hilo ini (own g) hd with ⟨used, _⟩ | taken
    · rw [((own f).disco.tomados n (.inr held)).2] at used
      contradiction
    · by_cases same : g = f
      · subst same
        have distinct := (own g).disco.distintos
        rw [held] at distinct
        exact (List.nodup_append.mp distinct).2.2 n taken n (by simp) rfl
      · exact apart f g (Ne.symm same) n (.inr held) (.inl taken)
  · intro f idle
    have waiting : (x.locals f).pc = .access :=
      congrArg Flush.pc (run_idle idle (inicial s₀ paquete))
    exact vista_igual ini (own f).disco (fase_access (own f).fase waiting)

def dosPaquetes (f : FileTag) : Paquete :=
  if f = b1 then ([(0, [121])], 1) else if f = b2 then ([(0, [122])], 1) else ([], 0)

def porTurnos : List FileTag := (List.replicate 16 [b1, b2]).flatten

theorem flushes_separados_por_turnos :
    let x := (inicial compartido dosPaquetes).run (pasoFlush discoDeSeis) porTurnos
    (x.locals b1).pc = .fin true ∧ BloquesEnUso x.shared ∧ ∃ c, Abierta compartido b1 c ∧
      vista discoDeSeis x.shared b1 =
        some ((version discoDeSeis compartido b1 c).ponerPaginas [(0, [121])]) := by
  have whole : ∀ f, ∀ p ∈ (dosPaquetes f).1, p.2.length = discoDeSeis.tamanioBloque := by
    intro f p hp
    unfold dosPaquetes at hp
    split at hp
    · simp_all [discoDeSeis]
    split at hp
    · simp_all [discoDeSeis]
    · contradiction
  have ended : (((inicial compartido dosPaquetes).run (pasoFlush discoDeSeis)
      porTurnos).locals b1).pc = .fin true := rfl
  have all := flushes_separados consistente_compartido whole porTurnos
  obtain ⟨c, open_, _, _, seen⟩ := all.2.2.1 b1 ended
  exact ⟨ended, all.1, c, open_, seen⟩

end StorageSimultaneos
