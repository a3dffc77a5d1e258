import MasterOfFiles.Storage.Volcados

/-!
TRUNCATE and DELETE from the state they find to the state they leave. Both free a block when
its last logical link goes, and only then, whoever else links it and however often the
File:Tag repeats it. Names are simple ones (Nombre).
-/
namespace StorageBajas
open StorageEstado StorageArchivos StoragePrimitivas StoragePedidos StorageAcuerdo
open StorageVolcados LinkDirectory

variable {Hash : Type} {sb : Superbloque} {s s' : Storage Hash} {f g : FileTag} {c : Carpeta}
  {b : Nat} {quitados : Nat → Prop}

/-- A bit goes from 1 to 0 just when the last link of its block goes. -/
def BitsPorEnlaces (s s' : Storage Hash) : Prop :=
  (∀ b, s'.bitmap b = true → s.bitmap b = true) ∧
    ∀ b, s.bitmap b = true ∧ s'.bitmap b = false ↔ s.Enlazado b ∧ ¬ s'.Enlazado b

theorem bitsPorEnlaces (freed : LiberacionExacta s quitados s')
    (used : ∀ b, s.Enlazado b → s.bitmap b = true) (were : ∀ b, quitados b → s.Enlazado b)
    (lost : ∀ b, s.Enlazado b → ¬ s'.Enlazado b → quitados b) : BitsPorEnlaces s s' := by
  refine ⟨fun b hb => (freed.bits b hb).1, fun b => ?_⟩
  constructor
  · intro change
    obtain ⟨taken, free⟩ := freed.sueltos b change.1 change.2
    exact ⟨were b taken, free⟩
  · intro change
    refine ⟨used b change.1, ?_⟩
    by_contra still
    have still : s'.bitmap b = true := by simpa using still
    exact change.2 ((freed.bits b still).2 (lost b change.1 change.2))

theorem mem_blocks_iff (listed : Listado c) (hc : s.carpetas.lookup f = some c) :
    b ∈ c.blocks ↔ ∃ i, s.destino f i = some b := by
  simp only [List.mem_iff_getElem?, destino_listado listed hc]

structure Eliminado (sb : Superbloque) (s : Storage Hash) (f : FileTag) (s' : Storage Hash) :
    Prop where
  carpeta : s'.carpetas.lookup f = none
  otras : ∀ g, g ≠ f → s'.carpetas.lookup g = s.carpetas.lookup g
  contenidos : ∀ g, g ≠ f → ∀ bloque, leerBloque sb s' g bloque = leerBloque sb s g bloque
  coherente : Coherente s'
  cambian : ∀ b, s'.bitmap b ≠ s.bitmap b ↔
    s.Enlazado b ∧ ∀ g i, s.destino g i = some b → g = f
  libres : ∀ b, s'.bitmap b ≠ s.bitmap b → s'.bitmap b = false

theorem enlazado_eliminado (folders : ∀ g, s'.carpetas.lookup g =
      if g = f then none else s.carpetas.lookup g) (b : Nat) :
    s'.Enlazado b ↔ ∃ g i, g ≠ f ∧ s.destino g i = some b := by
  refine exists_congr fun g => exists_congr fun i => ?_
  simp only [Storage.destino, folders]
  by_cases hg : g = f <;> simp [hg]

theorem enlazado_usado (h : Coherente s) (b : Nat) (there : s.Enlazado b) :
    s.bitmap b = true := by
  obtain ⟨g, i, hd⟩ := there
  exact (h.usados g i b hd).1

/-- DELETE frees exactly what only its File:Tag used. Block 0, which initial_file:BASE links,
    keeps its bit. -/
theorem eliminarFileTag_exacto (h : Coherente s)
    (cero : ∃ i, s.destino initialFileBase i = some 0) (unprotected : esProtegido f = false)
    (hc : s.carpetas.lookup f = some c) :
    (eliminarFileTag sb s f).1 = true ∧ Eliminado sb s f (eliminarFileTag sb s f).2 ∧
      (∃ i, (eliminarFileTag sb s f).2.destino initialFileBase i = some 0) ∧
      (eliminarFileTag sb s f).2.bitmap 0 = s.bitmap 0 := by
  have listed := h.listas f c hc
  obtain ⟨ok, folders, freed⟩ :=
    eliminarFileTag_efecto h.fisicos unprotected hc listed
  generalize (eliminarFileTag sb s f).2 = s' at folders freed ⊢
  have noBase := sin_proteger_ne_inicial unprotected
  have others : ∀ g, g ≠ f → s'.carpetas.lookup g = s.carpetas.lookup g := by
    intro g hg
    rw [folders, if_neg hg]
  have links : ∀ g i, g ≠ f → s'.destino g i = s.destino g i := by
    intro g i hg
    simp only [Storage.destino, others g hg]
  have linked := enlazado_eliminado folders
  have bits := bitsPorEnlaces freed (enlazado_usado h)
    (fun b hb => ⟨f, (mem_blocks_iff listed hc).mp hb⟩) (by
      intro b there gone
      obtain ⟨g, i, hd⟩ := there
      have own : g = f := by
        by_contra hg
        exact gone ((linked b).mpr ⟨g, i, hg, hd⟩)
      exact (mem_blocks_iff listed hc).mpr ⟨i, own ▸ hd⟩)
  have changes : ∀ b, s'.bitmap b ≠ s.bitmap b ↔ s.bitmap b = true ∧ s'.bitmap b = false := by
    intro b
    have fewer := bits.1 b
    cases before : s.bitmap b <;> cases after : s'.bitmap b <;> simp_all
  have only : ∀ b, s.Enlazado b ∧ ¬ s'.Enlazado b ↔
      s.Enlazado b ∧ ∀ g i, s.destino g i = some b → g = f := by
    intro b
    rw [linked b]
    refine and_congr_right fun _ => ?_
    constructor
    · intro gone g i hd
      by_contra hg
      exact gone ⟨g, i, hg, hd⟩
    · intro own there
      obtain ⟨g, i, hg, hd⟩ := there
      exact hg (own g i hd)
  have cambian : ∀ b, s'.bitmap b ≠ s.bitmap b ↔
      s.Enlazado b ∧ ∀ g i, s.destino g i = some b → g = f :=
    fun b => (changes b).trans ((bits.2 b).trans (only b))
  obtain ⟨i₀, hi₀⟩ := cero
  refine ⟨ok, ⟨by rw [folders, if_pos rfl], others, ?_, ⟨?_, ?_⟩, cambian,
    fun b hb => ((changes b).mp hb).2⟩, ⟨i₀, ?_⟩, ?_⟩
  · intro g hg bloque
    exact leerBloque_congr (others g hg) (fun _ _ _ => by rw [freed.datos]) bloque
  · intro g i b hd
    have hg : g ≠ f := by
      rintro rfl
      simp [Storage.destino, folders] at hd
    have before := h.usados g i b (by rwa [links g i hg] at hd)
    constructor
    · by_contra clear
      exact (freed.sueltos b before.1 (by simpa using clear)).2 ⟨g, i, hd⟩
    · by_contra gone
      exact freed.borrados b before.2 (by simpa using gone) ⟨g, i, hd⟩
  · intro g c' hc'
    rw [folders] at hc'
    split at hc'
    · contradiction
    · exact h.listas g c' hc'
  · rw [links _ _ (Ne.symm noBase), hi₀]
  · by_contra change
    exact noBase (((cambian 0).mp change).2 _ i₀ hi₀).symm

def compartido : Storage Bytes :=
  trasPedidos discoDeSeis id (nuevoCon b1 120 ++ [.tag b1 b2])

theorem consistente_compartido : Consistente discoDeSeis compartido :=
  consistente_trasPedidos discoDeSeis (by decide)

theorem lookup_compartido (present : (compartido.carpetas.lookup f).isSome = true) :
    ∃ c, compartido.carpetas.lookup f = some c :=
  Option.isSome_iff_exists.mp present

theorem eliminarFileTag_exacto_tag :
    (eliminarFileTag discoDeSeis compartido b2).1 = true ∧
      Eliminado discoDeSeis compartido b2 (eliminarFileTag discoDeSeis compartido b2).2 ∧
      (∃ i, (eliminarFileTag discoDeSeis compartido b2).2.destino initialFileBase i = some 0) ∧
      (eliminarFileTag discoDeSeis compartido b2).2.bitmap 0 = compartido.bitmap 0 := by
  obtain ⟨c, hc⟩ := lookup_compartido (f := b2) (by decide)
  exact eliminarFileTag_exacto (consistente_coherente consistente_compartido)
    ⟨0, by decide⟩ (by decide) hc

/-- f keeps the blocks before the shorter of both ends, is linked to block 0 up to the new
    one, and has its metadata say so. -/
structure Truncado (sb : Superbloque) (s : Storage Hash) (f : FileTag) (c : Carpeta)
    (tamanio : Nat) (s' : Storage Hash) : Prop where
  carpeta : ∃ l blocks, s'.carpetas.lookup f = some ⟨tamanio, c.estado, blocks, l⟩ ∧
    blocks.length = sb.bloquesLogicos tamanio ∧ ∀ i, l.lookup i = blocks[i]?
  quedan : ∀ i < min (sb.bloquesLogicos c.tamanio) (sb.bloquesLogicos tamanio),
    s'.destino f i = s.destino f i ∧ leerBloque sb s' f i = leerBloque sb s f i
  nuevos : ∀ i, sb.bloquesLogicos c.tamanio ≤ i → i < sb.bloquesLogicos tamanio →
    s'.destino f i = some 0
  salen : ∀ i, sb.bloquesLogicos tamanio ≤ i → s'.destino f i = none
  bits : BitsPorEnlaces s s'
  otras : ∀ g, g ≠ f → s'.carpetas.lookup g = s.carpetas.lookup g ∧
    ∀ bloque, leerBloque sb s' g bloque = leerBloque sb s g bloque

theorem truncarFile_abierto (ok : (truncarFile sb s f b).1 = true)
    (hc : s.carpetas.lookup f = some c) : esProtegido f = false ∧ c.estado ≠ .commited := by
  unfold truncarFile at ok
  split at ok
  · contradiction
  rename_i unprotected
  split at ok
  · contradiction
  rename_i open_
  exact ⟨by simpa using unprotected, by simpa [verificarSiCommited, hc] using open_⟩

/-- TRUNCATE that is accepted does just what the two sizes say. -/
theorem truncarFile_exacto (h : Coherente s) (all : MetadataAcorde sb s)
    (rango : ∀ b, s.bitmap b = true → b < sb.cantidadBloques)
    (base : ∃ c, s.carpetas.lookup initialFileBase = some c ∧ c.blocks = [0])
    (hc : s.carpetas.lookup f = some c) (tamanio : Nat)
    (ok : (truncarFile sb s f tamanio).1 = true) :
    Truncado sb s f c tamanio (truncarFile sb s f tamanio).2 := by
  have agree := all f c hc
  obtain ⟨unprotected, open_⟩ := truncarFile_abierto ok hc
  have len := agree.2 (sin_proteger_ne_inicial unprotected)
  obtain ⟨c₀, hc₀, only⟩ := base
  have cero : s.destino initialFileBase 0 = some 0 := by
    rw [destino_listado (h.listas _ c₀ hc₀) hc₀, only]
    rfl
  obtain ⟨l, _, links, list, freed⟩ := truncarFile_efecto h.fisicos rango
    (h.usados _ _ _ cero).2 unprotected hc open_ agree tamanio
  generalize (truncarFile sb s f tamanio).2 = s' at links freed ⊢
  have own : ∀ i, s'.destino f i = (bloquesFinales c.blocks (sb.bloquesLogicos tamanio))[i]? := by
    intro i
    rw [destino_of_lookup links.propia, list]
  have before := destino_listado agree.1 hc
  refine ⟨⟨l, _, links.propia, bloquesFinales_length _ _, list⟩, ?_, ?_, ?_, ?_, ?_⟩
  · intro i hi
    have same : s'.destino f i = s.destino f i := by
      rw [own, before, bloquesFinales_get, if_pos (by omega), if_pos (by omega)]
    refine ⟨same, ?_⟩
    rw [destino_of_lookup links.propia, destino_of_lookup hc] at same
    simp only [leerBloque, links.propia, hc, bloquesFinales_length, Int.toNat_natCast, same,
      freed.datos]
    rw [if_neg (by omega), if_neg (by omega), if_neg (by omega), if_neg (by omega)]
  · intro i lo hi
    rw [own, bloquesFinales_get, if_pos hi, if_neg (by omega)]
  · intro i lo
    rw [own, bloquesFinales_get, if_neg (by omega)]
  · apply bitsPorEnlaces freed (enlazado_usado h)
    · intro b dropped
      obtain ⟨i, _, hb⟩ := dropped
      exact ⟨f, i, (before i).trans hb⟩
    intro b there gone
    obtain ⟨g, i, hd⟩ := there
    by_cases hg : g = f
    · subst hg
      refine ⟨i, ?_, (before i).symm.trans hd⟩
      by_contra kept
      have inside : i < c.blocks.length := by
        rw [before] at hd
        exact (List.getElem?_eq_some_iff.mp hd).1
      refine gone ⟨g, i, ?_⟩
      rw [own, bloquesFinales_get, if_pos (by omega), if_pos inside, ← before, hd]
    · refine (gone ⟨g, i, ?_⟩).elim
      rw [destino_conLinks links, if_neg hg, hd]
  · intro g hg
    exact ⟨links.otras g hg, leerBloque_congr (links.otras g hg) fun _ _ _ => by rw [freed.datos]⟩

theorem truncarFile_exacto_vacio :
    ∃ c, compartido.carpetas.lookup b1 = some c ∧
      Truncado discoDeSeis compartido b1 c 0 (truncarFile discoDeSeis compartido b1 0).2 := by
  obtain ⟨c, hc⟩ := lookup_compartido (f := b1) (by decide)
  have whole := consistente_compartido
  exact ⟨c, hc, truncarFile_exacto (consistente_coherente whole) whole.acorde whole.sano.rango
    ⟨carpetaBase, whole.sano.base, rfl⟩ hc 0 (by decide)⟩

end StorageBajas
