import MasterOfFiles.Storage.Metadata

/-!
What WRITE_BLOCK, FLUSH, TRUNCATE and DELETE leave alone in any state, also when metadata
and links disagree: contents outside the next free blocks, bits of blocks that keep a link,
and the logical blocks that were not the target.
-/
namespace StorageTomas
open StorageEstado StorageArchivos StorageEscritura StoragePrimitivas StoragePasos
open StoragePedidos StorageDeduplicacion StorageAcuerdo StorageMovidas StorageMetadata
open LinkDirectory FirstFit

variable {Hash : Type} {sb : Superbloque} {s s₁ s' : Storage Hash} {f g : FileTag} {c : Carpeta}
  {i n m b nuevo actual : Nat}

/-- The first n free blocks of s may have been taken and written. -/
structure Toma (sb : Superbloque) (n : Nat) (s s' : Storage Hash) : Prop where
  bits : ∀ b, s.bitmap b = true → s'.bitmap b = true
  libres : ∃ k, k ≤ n ∧ freeSlots sb.cantidadBloques s'.bitmap =
    (freeSlots sb.cantidadBloques s.bitmap).drop k
  existe : ∀ b, s.existe b = true → s'.existe b = true
  datos : ∀ b, b ∉ (freeSlots sb.cantidadBloques s.bitmap).take n → s'.datos b = s.datos b
  indice : s'.indice = s.indice

theorem toma_refl (sb : Superbloque) (s : Storage Hash) : Toma sb 0 s s :=
  ⟨fun _ h => h, ⟨0, le_refl 0, rfl⟩, fun _ h => h, fun _ _ => rfl, rfl⟩

theorem toma_mono (h : Toma sb n s s') (more : n ≤ m) : Toma sb m s s' := by
  obtain ⟨k, hk, rest⟩ := h.libres
  refine ⟨h.bits, ⟨k, hk.trans more, rest⟩, h.existe, ?_, h.indice⟩
  intro b outside
  exact h.datos b fun inside => outside (List.take_subset_take_left _ more inside)

theorem toma_trans (first : Toma sb n s s₁) (second : Toma sb m s₁ s') :
    Toma sb (n + m) s s' := by
  obtain ⟨k, hk, rest⟩ := first.libres
  obtain ⟨j, hj, last⟩ := second.libres
  refine ⟨fun b h => second.bits b (first.bits b h), ⟨k + j, by omega, ?_⟩,
    fun b h => second.existe b (first.existe b h), ?_, second.indice.trans first.indice⟩
  · rw [last, rest, List.drop_drop]
  · intro b outside
    have early : b ∉ (freeSlots sb.cantidadBloques s.bitmap).take n := fun inside =>
      outside (List.take_subset_take_left _ (Nat.le_add_right n m) inside)
    have late : b ∉ (freeSlots sb.cantidadBloques s₁.bitmap).take m := by
      intro inside
      rw [rest, List.take_drop] at inside
      exact outside (List.take_subset_take_left _ (by omega) (List.mem_of_mem_drop inside))
    rw [second.datos b late, first.datos b early]

theorem sin_tomar (h : b = 0 ∨ s.bitmap b = true) (n : Nat) :
    b ∉ (freeSlots sb.cantidadBloques s.bitmap).take n := by
  intro taken
  obtain ⟨pos, _, free⟩ := mem_freeSlots.mp (List.mem_of_mem_take taken)
  rcases h with rfl | used
  · omega
  · rw [used] at free
    contradiction

theorem tomado_primero (hn : firstFree sb.cantidadBloques s.bitmap = some nuevo) :
    nuevo ∈ (freeSlots sb.cantidadBloques s.bitmap).take 1 := by
  rw [freeSlots_after_take hn]
  simp

theorem toma_revertida (hn : firstFree sb.cantidadBloques s.bitmap = some nuevo) :
    Toma sb 1 s (((s.ocupar nuevo).abrirVacio nuevo).liberar nuevo) := by
  have free := (firstFree_some hn).2.2
  have same : (((s.ocupar nuevo).abrirVacio nuevo).liberar nuevo).bitmap = s.bitmap := by
    simp [Storage.ocupar, Storage.abrirVacio, Storage.liberar, Function.update_idem, ← free]
  refine ⟨fun b h => by rw [same]; exact h, ⟨0, by omega, by rw [same]; rfl⟩, ?_, ?_, rfl⟩
  · intro b h
    simp only [Storage.ocupar, Storage.abrirVacio, Storage.liberar, Function.update_apply]
    split
    · rfl
    · exact h
  · intro b outside
    have ne : b ≠ nuevo := by
      rintro rfl
      exact outside (tomado_primero hn)
    simp [Storage.ocupar, Storage.abrirVacio, Storage.liberar, ne]

theorem toma_hecha (actual i : Nat) (c : Carpeta)
    (hn : firstFree sb.cantidadBloques s.bitmap = some nuevo) :
    Toma sb 1 s ((copiarFisico sb (s.ocupar nuevo) actual nuevo).ponerCarpeta f
      { c with logicos := (c.logicos.erase i).insert i nuevo }) := by
  rw [copiarFisico_eq]
  refine ⟨?_, ⟨1, le_refl 1, ?_⟩, ?_, ?_, rfl⟩
  · intro b h
    simp only [Storage.ocupar, Storage.ponerCarpeta, Function.update_apply]
    split
    · rfl
    · exact h
  · simp only [Storage.ocupar, Storage.ponerCarpeta]
    rw [freeSlots_after_take hn]
    rfl
  · intro b h
    simp only [Storage.ocupar, Storage.ponerCarpeta, Function.update_apply]
    split
    · rfl
    · exact h
  · intro b outside
    have ne : b ≠ nuevo := by
      rintro rfl
      exact outside (tomado_primero hn)
    simp [Storage.ocupar, Storage.ponerCarpeta, ne]

theorem toma_escribir (h : Toma sb n s s₁)
    (hb : b ∈ (freeSlots sb.cantidadBloques s.bitmap).take n) (contenido : Bytes) :
    Toma sb n s (escribirEnFinal s₁ b contenido).2 := by
  unfold escribirEnFinal Storage.escribirFisico
  cases he : s₁.existe b with
  | false => exact h
  | true =>
    refine ⟨h.bits, h.libres, h.existe, ?_, h.indice⟩
    intro x outside
    have ne : x ≠ b := by
      rintro rfl
      exact outside hb
    simp only [↓reduceIte, Function.update_of_ne ne]
    exact h.datos x outside

structure SalvoBloques (escritos : List Nat) (c c' : Carpeta) : Prop where
  tamanio : c'.tamanio = c.tamanio
  estado : c'.estado = c.estado
  largo : c'.blocks.length = c.blocks.length
  links : ∀ i, i ∉ escritos → c'.logicos.lookup i = c.logicos.lookup i
  lista : ∀ i, i ∉ escritos → c'.blocks[i]? = c.blocks[i]?

theorem salvoBloques_refl (escritos : List Nat) (c : Carpeta) : SalvoBloques escritos c c :=
  ⟨rfl, rfl, rfl, fun _ _ => rfl, fun _ _ => rfl⟩

theorem escribirEnFinal_carpetas (s : Storage Hash) (b : Nat) (contenido : Bytes) :
    (escribirEnFinal s b contenido).2.carpetas = s.carpetas := by
  unfold escribirEnFinal Storage.escribirFisico
  split
  · rfl
  · rename_i s' h
    split at h
    · cases h; rfl
    · contradiction

def escritosPorBloque (sb : Superbloque) (s : Storage Hash) (f : FileTag) (bloque : Int)
    (contenido : Bytes) : List Nat :=
  if (escribirBloque sb s f bloque contenido).1 then [bloque.toNat] else []

def escritosPorFlush (sb : Superbloque) (s : Storage Hash) (f : FileTag)
    (paginas : List Pagina) (cantidad : Int) : List Nat :=
  if esProtegido f ∨ verificarSiCommited s f then []
  else match s.carpetas.lookup f with
  | none => []
  | some c => ((paginas.take cantidad.toNat).foldl (prepararPagina sb f c)
      ⟨s, true, []⟩).pendientes.map (·.numeroBloque)

/-- s' is s, or f was open and at most n blocks were taken for it; f keeps every logical
    block but `escritos`. -/
structure Reescrita (sb : Superbloque) (n : Nat) (escritos : List Nat) (f : FileTag) (c : Carpeta)
    (s s' : Storage Hash) : Prop where
  toma : s' = s ∨ esProtegido f = false ∧ c.estado ≠ .commited ∧ Toma sb n s s'
  carpeta : ∃ c', s'.carpetas.lookup f = some c' ∧ SalvoBloques escritos c c'

theorem reescrita_nada (hc : s.carpetas.lookup f = some c) (n : Nat) (escritos : List Nat) :
    Reescrita sb n escritos f c s s :=
  ⟨.inl rfl, c, hc, salvoBloques_refl escritos c⟩

theorem not_commited_beq (open_ : c.estado ≠ .commited) : (c.estado == .commited) = false := by
  cases he : c.estado with
  | workInProgress => rfl
  | commited => exact (open_ he).elim

theorem escribirBloque_casos (sano : Sano sb s) (hc : s.carpetas.lookup f = some c)
    (bloque : Int) (contenido : Bytes) :
    escribirBloque sb s f bloque contenido = (false, s) ∨
    (esProtegido f = false ∧ c.estado ≠ .commited ∧ EnRango sb c bloque) ∧
      c.logicos.lookup bloque.toNat ≠ none ∧
      ∃ nuevo, firstFree sb.cantidadBloques s.bitmap = some nuevo ∧
        (s.existe (c.blocks.getD bloque.toNat 0) = false ∧
            escribirBloque sb s f bloque contenido =
              (false, ((s.ocupar nuevo).abrirVacio nuevo).liberar nuevo) ∨
          s.existe (c.blocks.getD bloque.toNat 0) = true ∧
            escribirBloque sb s f bloque contenido = escribirEnFinal
              ((copiarFisico sb (s.ocupar nuevo) (c.blocks.getD bloque.toNat 0) nuevo).ponerCarpeta f
                { c with blocks := c.blocks.set bloque.toNat nuevo,
                         logicos := (c.logicos.erase bloque.toNat).insert bloque.toNat nuevo })
              nuevo (contenidoDeCadena sb contenido)) := by
  by_cases hp : esProtegido f = true
  · exact .inl (by simp [escribirBloque, hp])
  by_cases closed : c.estado = .commited
  · exact .inl (by simp [escribirBloque, hp, verificarSiCommited, hc, closed])
  have open_ := not_commited_beq closed
  by_cases outside : bloque < 0 ∨ (sb.bloquesLogicos c.tamanio : Int) ≤ bloque
  · exact .inl (by simp [escribirBloque, hp, verificarSiCommited, hc, open_, outside])
  by_cases short : c.blocks.length ≤ bloque.toNat
  · exact .inl (by simp [escribirBloque, hp, verificarSiCommited, hc, open_, outside, short])
  have range : EnRango sb c bloque := ⟨outside, Nat.lt_of_not_le short⟩
  cases hl : c.logicos.lookup bloque.toNat with
  | none =>
    exact .inl (by simp [escribirBloque, hp, verificarSiCommited, hc, open_, outside, short,
      destino_of_lookup hc, hl])
  | some b =>
    have hd : s.destino f bloque.toNat = some b := by rw [destino_of_lookup hc, hl]
    simp only [escribirBloque, hp, verificarSiCommited, hc, open_, hd, outside, short,
      nlink_ne_one sano hd, Bool.false_eq_true, if_false]
    rcases escrituraDiferenciada_cases sb (c.blocks.getD bloque.toNat 0) hc hl
      with ⟨_, copy⟩ | ⟨nuevo, hn, ⟨missing, copy⟩ | ⟨there, copy⟩⟩
    · exact .inl (by rw [copy])
    · exact .inr ⟨⟨by simp, closed, range⟩, by simp, nuevo, hn, .inl ⟨missing, by rw [copy]⟩⟩
    · refine .inr ⟨⟨by simp, closed, range⟩, by simp, nuevo, hn, .inr ⟨there, ?_⟩⟩
      rw [copy]
      simp only [guardarBlocks, lookup_ponerCarpeta, if_true, ponerCarpeta_ponerCarpeta]

theorem escribirBloque_reescrita (sano : Sano sb s) (hc : s.carpetas.lookup f = some c)
    (bloque : Int) (contenido : Bytes) :
    ((escribirBloque sb s f bloque contenido).2 = s ∨ EnRango sb c bloque) ∧
    Reescrita sb 1 (escritosPorBloque sb s f bloque contenido) f c s
      (escribirBloque sb s f bloque contenido).2 := by
  rcases escribirBloque_casos sano hc bloque contenido
    with run | ⟨⟨unprotected, open_, range⟩, _, nuevo, hn, ⟨_, run⟩ | ⟨_, run⟩⟩
  · rw [run]
    exact ⟨.inl rfl, reescrita_nada hc 1 _⟩
  · rw [run]
    exact ⟨.inr range, .inr ⟨unprotected, open_, toma_revertida hn⟩, c, hc, salvoBloques_refl _ c⟩
  · have moved := toma_hecha (f := f) (c.blocks.getD bloque.toNat 0) bloque.toNat
      { c with blocks := c.blocks.set bloque.toNat nuevo } hn
    have written : escritosPorBloque sb s f bloque contenido = [bloque.toNat] := by
      rw [escritosPorBloque, run]
      simp [escribirEnFinal, Storage.escribirFisico, Storage.ponerCarpeta, copiarFisico_eq]
    rw [written, run]
    refine ⟨.inr range, .inr ⟨unprotected, open_, toma_escribir moved (tomado_primero hn) _⟩, ?_⟩
    rw [escribirEnFinal_carpetas, lookup_ponerCarpeta, if_pos rfl]
    refine ⟨_, rfl, rfl, rfl, by simp, ?_, ?_⟩
    · intro i other
      simp only [List.mem_singleton] at other
      simp only [lookup_insert_ite, lookup_erase_ite, other, if_false]
    · intro i other
      simp only [List.mem_singleton] at other
      exact List.getElem?_set_ne (Ne.symm other)

structure FaseToma (sb : Superbloque) (n : Nat) (s : Storage Hash) (f : FileTag) (c : Carpeta)
    (fase : FaseFlush Hash) : Prop where
  toma : Toma sb n s fase.storage
  carpeta : ∃ l, fase.storage.carpetas.lookup f = some { c with logicos := l } ∧
    ∀ i, i ∉ fase.pendientes.map (·.numeroBloque) → l.lookup i = c.logicos.lookup i
  finales : ∀ e ∈ fase.pendientes,
    e.bloqueFinal ∈ (freeSlots sb.cantidadBloques s.bitmap).take n

theorem faseToma_mono {fase : FaseFlush Hash} (h : FaseToma sb n s f c fase) (more : n ≤ m) :
    FaseToma sb m s f c fase :=
  ⟨toma_mono h.toma more, h.carpeta,
    fun e he => List.take_subset_take_left _ more (h.finales e he)⟩

theorem tomado_despues (h : Toma sb n s s₁)
    (hn : firstFree sb.cantidadBloques s₁.bitmap = some nuevo) :
    nuevo ∈ (freeSlots sb.cantidadBloques s.bitmap).take (n + 1) := by
  obtain ⟨k, hk, rest⟩ := h.libres
  have first := tomado_primero hn
  rw [rest, List.take_drop] at first
  exact List.take_subset_take_left _ (by omega) (List.mem_of_mem_drop first)

theorem faseToma_pagina {fase : FaseFlush Hash} (h : FaseToma sb n s f c fase)
    (sano : Sano sb fase.storage) (pagina : Pagina) (room : EnRango sb c pagina.1 → 1 ≤ m) :
    FaseToma sb (n + m) s f c (prepararPagina sb f c fase pagina) := by
  have idle : FaseToma sb (n + m) s f c { fase with exitosas := false } :=
    faseToma_mono ⟨h.toma, h.carpeta, h.finales⟩ (Nat.le_add_right n m)
  unfold prepararPagina
  split
  · exact idle
  rename_i inside
  split
  · exact idle
  rename_i short
  have one : 1 ≤ m := room ⟨inside, Nat.lt_of_not_le short⟩
  dsimp only
  cases hd : fase.storage.destino f pagina.1.toNat with
  | none => exact idle
  | some b =>
  dsimp only
  rw [if_neg (nlink_ne_one sano hd)]
  obtain ⟨l, hl, others⟩ := h.carpeta
  rw [destino_of_lookup hl] at hd
  rcases escrituraDiferenciada_cases sb (c.blocks.getD pagina.1.toNat 0) hl hd
    with ⟨_, copy⟩ | ⟨nuevo, hn, ⟨_, copy⟩ | ⟨_, copy⟩⟩
  · rw [copy]
    exact idle
  · rw [copy]
    exact ⟨toma_trans h.toma (toma_mono (toma_revertida hn) one), ⟨l, hl, others⟩, idle.finales⟩
  · rw [copy]
    refine ⟨toma_trans h.toma (toma_mono (toma_hecha _ _ _ hn) one),
      ⟨_, by rw [lookup_ponerCarpeta, if_pos rfl], ?_⟩, ?_⟩
    · intro i hi
      simp only [List.map_append, List.map_cons, List.map_nil, List.mem_append,
        List.mem_singleton, not_or] at hi
      simp only [lookup_insert_ite, lookup_erase_ite, hi.2, if_false]
      exact others i hi.1
    · intro e he
      rcases List.mem_append.mp he with old | new
      · exact idle.finales e old
      · rw [List.mem_singleton.mp new]
        exact List.take_subset_take_left _ (by omega) (tomado_despues h.toma hn)

theorem faseToma_inicio (sb : Superbloque) (hc : s.carpetas.lookup f = some c) :
    FaseToma sb 0 s f c ⟨s, true, []⟩ :=
  ⟨toma_refl sb s, ⟨c.logicos, hc, fun _ _ => rfl⟩, by simp⟩

theorem sano_pagina {fase : FaseFlush Hash} (sano : Sano sb fase.storage)
    (noBase : f ≠ initialFileBase) (c : Carpeta) (p : Pagina) :
    Sano sb (prepararPagina sb f c fase p).storage := by
  have steps : FaseSegura sb False f fase.storage (prepararPagina sb f c fase p) :=
    faseSegura_pagina (apta_debil sano) noBase c ⟨.refl, False.elim⟩ p
  exact sano_primitivas steps.pasos sano noBase

theorem faseToma_paginas (noBase : f ≠ initialFileBase) (paginas : List Pagina) :
    ∀ {n : Nat} {fase : FaseFlush Hash}, FaseToma sb n s f c fase → Sano sb fase.storage →
      FaseToma sb (n + (paginas.filter fun p => EnRango sb c p.1).length) s f c
        (paginas.foldl (prepararPagina sb f c) fase) := by
  induction paginas with
  | nil => intro n fase h _; exact h
  | cons p rest ih =>
    intro n fase h sano
    have safe := sano_pagina sano noBase c p
    rw [List.foldl_cons, List.filter_cons]
    by_cases inside : EnRango sb c p.1
    · have next := ih (faseToma_pagina h sano p fun _ => le_refl 1) safe
      simp only [inside, decide_true, if_true, List.length_cons]
      exact faseToma_mono next (by omega)
    · have next := ih (faseToma_pagina (m := 0) h sano p fun range => (inside range).elim) safe
      simpa [inside] using next

theorem escribirPendientes_toma (pendientes : List EscrituraPendiente) :
    ∀ (ok : Bool) {s₁ : Storage Hash}, Toma sb n s s₁ →
      (∀ e ∈ pendientes, e.bloqueFinal ∈ (freeSlots sb.cantidadBloques s.bitmap).take n) →
      Toma sb n s (escribirPendientes sb ⟨s₁, ok, pendientes⟩).2 ∧
        (escribirPendientes sb ⟨s₁, ok, pendientes⟩).2.carpetas = s₁.carpetas := by
  induction pendientes with
  | nil => intro ok s₁ h _; exact ⟨h, rfl⟩
  | cons e rest ih =>
    intro ok s₁ h own
    obtain ⟨toma, same⟩ := ih
      (ok && (escribirEnFinal s₁ e.bloqueFinal (e.contenido.take sb.tamanioBloque)).1)
      (toma_escribir h (own e (by simp)) (e.contenido.take sb.tamanioBloque))
      fun e' he => own e' (List.mem_cons_of_mem e he)
    exact ⟨toma, same.trans (escribirEnFinal_carpetas s₁ _ _)⟩

theorem actualizarBlocks_salvo (pendientes : List EscrituraPendiente) : ∀ blocks : List Nat,
    (actualizarBlocks blocks pendientes).length = blocks.length ∧
      ∀ i, i ∉ pendientes.map (·.numeroBloque) →
        (actualizarBlocks blocks pendientes)[i]? = blocks[i]? := by
  unfold actualizarBlocks
  induction pendientes with
  | nil => intro blocks; exact ⟨rfl, fun _ _ => rfl⟩
  | cons e rest ih =>
    intro blocks
    simp only [List.foldl_cons]
    cases hv : e.nuevoValor with
    | none =>
      obtain ⟨len, same⟩ := ih blocks
      refine ⟨len, fun i hi => same i fun later => hi (by simp [later])⟩
    | some v =>
      obtain ⟨len, same⟩ := ih (blocks.set e.numeroBloque v)
      refine ⟨by rw [len, List.length_set], fun i hi => ?_⟩
      simp only [List.map_cons, List.mem_cons, not_or] at hi
      rw [same i hi.2, List.getElem?_set_ne (Ne.symm hi.1)]

theorem flushArchivo_reescrita (sano : Sano sb s) (hc : s.carpetas.lookup f = some c)
    (paginas : List Pagina) (cantidad : Int) :
    Reescrita sb (paginasEnRango sb c paginas cantidad).length
      (escritosPorFlush sb s f paginas cantidad) f c s
      (flushArchivo sb s f paginas cantidad).2 := by
  by_cases hp : esProtegido f = true
  · have run : (flushArchivo sb s f paginas cantidad).2 = s := by simp [flushArchivo, hp]
    rw [run]
    exact reescrita_nada hc _ _
  by_cases closed : c.estado = .commited
  · have run : (flushArchivo sb s f paginas cantidad).2 = s := by
      simp [flushArchivo, hp, hc, verificarSiCommited, closed]
    rw [run]
    exact reescrita_nada hc _ _
  have unprotected : esProtegido f = false := by simpa using hp
  have loop := faseToma_paginas (sin_proteger_ne_inicial unprotected)
    (paginas.take cantidad.toNat) (faseToma_inicio sb hc) sano
  rw [Nat.zero_add] at loop
  simp only [flushArchivo, escritosPorFlush, hp, hc, verificarSiCommited, not_commited_beq closed,
    Bool.false_eq_true, if_false, or_self]
  generalize (paginas.take cantidad.toNat).foldl (prepararPagina sb f c) ⟨s, true, []⟩ = fase
    at loop ⊢
  obtain ⟨l, hl, others⟩ := loop.carpeta
  obtain ⟨len, kept⟩ := actualizarBlocks_salvo fase.pendientes c.blocks
  -- a failed packet, with or without its metadata, and a whole one leave the same blocks taken
  have finish : ∀ (ok : Bool) (s₁ : Storage Hash),
      Toma sb (paginasEnRango sb c paginas cantidad).length s s₁ →
      (∃ c', s₁.carpetas.lookup f = some c' ∧
        SalvoBloques (fase.pendientes.map (·.numeroBloque)) c c') →
      ∀ s₂, s₂ = (escribirPendientes sb ⟨s₁, ok, fase.pendientes⟩).2 ∨
          s₂ = (escribirPendientes sb ⟨s₁, ok, fase.pendientes⟩).2.persistirBitmap →
        Reescrita sb (paginasEnRango sb c paginas cantidad).length
          (fase.pendientes.map (·.numeroBloque)) f c s s₂ := by
    intro ok s₁ toma folder s₂ which
    obtain ⟨written, same⟩ := escribirPendientes_toma fase.pendientes ok toma loop.finales
    rw [← same] at folder
    rcases which with rfl | rfl
    · exact ⟨.inr ⟨unprotected, closed, written⟩, folder⟩
    · exact ⟨.inr ⟨unprotected, closed, ⟨written.bits, written.libres, written.existe,
        written.datos, written.indice⟩⟩, folder⟩
  have plain : ∃ c', fase.storage.carpetas.lookup f = some c' ∧
      SalvoBloques (fase.pendientes.map (·.numeroBloque)) c c' :=
    ⟨_, hl, rfl, rfl, rfl, others, fun _ _ => rfl⟩
  have saved : ∃ c', (guardarBlocks fase.storage f
        (actualizarBlocks c.blocks fase.pendientes)).carpetas.lookup f = some c' ∧
      SalvoBloques (fase.pendientes.map (·.numeroBloque)) c c' := by
    simp only [guardarBlocks, hl, lookup_ponerCarpeta, if_true]
    exact ⟨_, rfl, rfl, rfl, len, others, kept⟩
  have savedToma : Toma sb (paginasEnRango sb c paginas cantidad).length s
      (guardarBlocks fase.storage f (actualizarBlocks c.blocks fase.pendientes)) := by
    simp only [guardarBlocks, hl]
    exact ⟨loop.toma.bits, loop.toma.libres, loop.toma.existe, loop.toma.datos,
      loop.toma.indice⟩
  have pend : (if paginas.length < cantidad.toNat then { fase with exitosas := false }
      else fase).pendientes = fase.pendientes := by
    split <;> rfl
  have stor : (if paginas.length < cantidad.toNat then { fase with exitosas := false }
      else fase).storage = fase.storage := by
    split <;> rfl
  generalize (if paginas.length < cantidad.toNat then { fase with exitosas := false }
      else fase) = fase' at pend stor ⊢
  rw [pend, stor]
  split <;> split
  · exact finish _ _ savedToma saved _ (.inr rfl)
  · exact finish _ _ savedToma saved _ (.inl rfl)
  · exact finish _ _ loop.toma plain _ (.inr rfl)
  · exact finish _ _ loop.toma plain _ (.inl rfl)

structure Suelta (s s' : Storage Hash) : Prop where
  datos : s'.datos = s.datos
  indice : s'.indice = s.indice
  enlazados : ∀ b, s'.Enlazado b → s.Enlazado b
  bits : ∀ b, s'.Enlazado b → s'.bitmap b = s.bitmap b

theorem suelta_refl (s : Storage Hash) : Suelta s s := ⟨rfl, rfl, fun _ h => h, fun _ _ => rfl⟩

theorem suelta_trans (first : Suelta s s₁) (second : Suelta s₁ s') : Suelta s s' :=
  ⟨second.datos.trans first.datos, second.indice.trans first.indice,
    fun b h => first.enlazados b (second.enlazados b h),
    fun b h => (second.bits b h).trans (first.bits b (second.enlazados b h))⟩

theorem suelta_de_links (disk : MismoDisco s s')
    (fewer : ∀ g j b, s'.destino g j = some b → s.Enlazado b) : Suelta s s' := by
  refine ⟨disk.datos, disk.indice, ?_, fun b _ => by rw [disk.bitmap]⟩
  rintro b ⟨g, j, hd⟩
  exact fewer g j b hd

theorem enlazarCeros_suelta (f : FileTag) (n : Nat) : ∀ (i : Nat) (s : Storage Hash),
    s.Enlazado 0 → Suelta s (enlazarCeros f n i s).2 := by
  induction n with
  | zero => intro i s _; exact suelta_refl s
  | succ n ih =>
    intro i s zero
    simp only [enlazarCeros]
    cases h : s.enlazar 0 f i with
    | none => exact suelta_refl s
    | some s' =>
      obtain ⟨g, j, hd⟩ := zero
      have step : Suelta s s' := by
        refine suelta_de_links ?_ ?_
        · obtain ⟨c, _, _, _, rfl⟩ := enlazar_some h
          exact mismoDisco_ponerCarpeta s f _
        · intro g' j' b hb
          rw [destino_enlazar h] at hb
          split at hb
          · cases hb; exact ⟨g, j, hd⟩
          · exact ⟨g', j', hb⟩
      have zero' : s'.Enlazado 0 := by
        refine ⟨g, j, ?_⟩
        rw [destino_enlazar h]
        split
        · rfl
        · exact hd
      exact suelta_trans step (ih (i + 1) s' zero')

theorem marcarBloqueLibre_suelta (rango : ∀ x, s.bitmap x = true → x < sb.cantidadBloques)
    (free : ¬ s.Enlazado b) : Suelta s (s.marcarBloqueLibre sb b) := by
  obtain ⟨bits, folders, _, data, index⟩ := marcarBloqueLibre_efecto rango b
  refine ⟨data, index, fun x h => (enlazado_congr folders x).mp h, ?_⟩
  intro x h
  rw [bits, Function.update_of_ne]
  rintro rfl
  exact free ((enlazado_congr folders x).mp h)

theorem desenlazar_suelta (s : Storage Hash) (f : FileTag) (i : Nat) :
    Suelta s ((s.desenlazar f i).getD s) := by
  cases h : s.desenlazar f i with
  | none => exact suelta_refl s
  | some s' =>
    refine suelta_de_links ?_ ?_
    · obtain ⟨c, x, _, _, rfl⟩ := desenlazar_some h
      exact mismoDisco_ponerCarpeta s f _
    · intro g j b hd
      simp only [Option.getD_some] at hd
      rw [destino_desenlazar h] at hd
      split at hd
      · contradiction
      · exact ⟨g, j, hd⟩

theorem quitarBloque_suelta (sano : Sano sb s) (bloques : List Nat) (i : Nat) :
    Suelta s (quitarBloque sb f bloques i s) := by
  refine suelta_trans (desenlazar_suelta s f i) ?_
  have bits : ((s.desenlazar f i).getD s).bitmap = s.bitmap := by
    cases h : s.desenlazar f i with
    | none => rfl
    | some s' => obtain ⟨c, x, _, _, rfl⟩ := desenlazar_some h; rfl
  simp only [quitarBloque]
  split
  · rename_i alone
    exact marcarBloqueLibre_suelta (bits ▸ sano.rango) ((nlink_one_of_existe alone.1).mp alone.2)
  · exact suelta_refl _

theorem quitarBloques_suelta (noBase : f ≠ initialFileBase) (bloques : List Nat) (desde n : Nat) :
    ∀ s : Storage Hash, Sano sb s → Suelta s (quitarBloques sb f bloques desde n s) := by
  induction n with
  | zero => intro s _; exact suelta_refl s
  | succ n ih =>
    intro s sano
    have steps := quitarBloque_pasos (f := f) (apta_debil sano) bloques (desde + n)
    exact suelta_trans (quitarBloque_suelta sano bloques (desde + n))
      (ih _ (sano_primitivas steps sano noBase))

theorem desenlazarTodos_suelta (f : FileTag) (n : Nat) : ∀ (i : Nat) (s : Storage Hash),
    Suelta s (desenlazarTodos f n i s) := by
  induction n with
  | zero => intro i s; exact suelta_refl s
  | succ n ih => intro i s; exact suelta_trans (desenlazar_suelta s f i) (ih (i + 1) _)

theorem liberarFisico_suelta (sano : Sano sb s) (b : Nat) :
    Suelta s (liberarFisico sb s b) := by
  have clear : ∀ {t : Storage Hash}, t.datos = s.datos → t.indice = s.indice →
      t.carpetas = s.carpetas → t.bitmap = Function.update s.bitmap b false →
      ¬ s.Enlazado b → Suelta s t := by
    intro t data index folders bits free
    refine ⟨data, index, fun x h => (enlazado_congr folders x).mp h, ?_⟩
    intro x h
    rw [bits, Function.update_of_ne]
    rintro rfl
    exact free ((enlazado_congr folders x).mp h)
  unfold liberarFisico
  split
  · rename_i he
    split
    · rename_i few
      exact clear rfl rfl rfl rfl ((nlink_le_one_of_existe he).mp few)
    · exact suelta_refl s
  · rename_i missing
    split
    · refine clear rfl rfl rfl rfl ?_
      rintro ⟨g, i, hd⟩
      exact missing (sano.fisicos g i b hd)
    · exact suelta_refl s

theorem liberarFisicos_suelta (noBase : f ≠ initialFileBase) (bloques : List Nat) :
    ∀ s : Storage Hash, Sano sb s → Suelta s (bloques.foldl (liberarFisico sb) s) := by
  induction bloques with
  | nil => intro s _; exact suelta_refl s
  | cons b rest ih =>
    intro s sano
    have steps := liberarFisico_pasos (f := f) (apta_debil sano) b
    exact suelta_trans (liberarFisico_suelta sano b) (ih _ (sano_primitivas steps sano noBase))

theorem eliminarFileTag_suelta (sano : Sano sb s) : Suelta s (eliminarFileTag sb s f).2 := by
  rcases eliminarFileTag_cases sb s f with same | ⟨c, unprotected, hc, gone⟩
  · rw [same]
    exact suelta_refl s
  rw [gone]
  have noBase : f ≠ initialFileBase := sin_proteger_ne_inicial unprotected
  have unlink := desenlazarTodos_suelta f c.blocks.length 0 s
  have weak : Apta sb False s := apta_debil sano
  have steps := desenlazarTodos_pasos noBase c.blocks.length 0 s weak
  have free := liberarFisicos_suelta noBase c.blocks _ (sano_primitivas steps sano noBase)
  refine suelta_trans (suelta_trans unlink free) ⟨rfl, rfl, ?_, fun _ _ => rfl⟩
  rintro b ⟨g, j, hd⟩
  rw [destino_borrarCarpeta] at hd
  split at hd
  · contradiction
  · exact ⟨g, j, hd⟩

theorem enlazarCeros_links (n : Nat) : ∀ (i : Nat) (s : Storage Hash) (l : Dir Nat Nat),
    s.carpetas.lookup f = some { c with logicos := l } →
    ∃ l', (enlazarCeros f n i s).2.carpetas.lookup f = some { c with logicos := l' } ∧
      (∀ j b, l.lookup j = some b → l'.lookup j = some b) ∧
      ((enlazarCeros f n i s).1 = true → ∀ j, i ≤ j → j < i + n → l'.lookup j = some 0) := by
  induction n with
  | zero => intro i s l hl; exact ⟨l, hl, fun _ _ h => h, fun _ j _ _ => by omega⟩
  | succ n ih =>
    intro i s l hl
    simp only [enlazarCeros]
    cases h : s.enlazar 0 f i with
    | none => exact ⟨l, hl, fun _ _ h => h, fun done => by contradiction⟩
    | some s' =>
      obtain ⟨c₁, hc₁, _, free, rfl⟩ := enlazar_some h
      rw [hl] at hc₁
      cases hc₁
      obtain ⟨l', hl', kept, zeros⟩ := ih (i + 1)
        (s.ponerCarpeta f { c with logicos := l.insert i 0 }) (l.insert i 0)
        (by rw [lookup_ponerCarpeta, if_pos rfl])
      refine ⟨l', hl', ?_, ?_⟩
      · intro j b hj
        refine kept j b ?_
        rw [lookup_insert_ite, if_neg]
        · exact hj
        · rintro rfl
          rw [free] at hj
          contradiction
      · intro done j lo hi
        by_cases first : j = i
        · exact kept j 0 (by rw [lookup_insert_ite, if_pos first])
        · exact zeros done j (by omega) (by omega)

theorem quitarBloque_carpetas (sb : Superbloque) (f : FileTag) (bloques : List Nat) (i : Nat)
    (s : Storage Hash) : (quitarBloque sb f bloques i s).carpetas =
      ((s.desenlazar f i).getD s).carpetas := by
  simp only [quitarBloque]
  split
  · unfold Storage.marcarBloqueLibre
    split
    · rfl
    · split <;> rfl
  · rfl

theorem quitarBloque_links (sb : Superbloque) (bloques : List Nat) (i : Nat) {l : Dir Nat Nat}
    (hl : s.carpetas.lookup f = some { c with logicos := l }) :
    ∃ l', (quitarBloque sb f bloques i s).carpetas.lookup f = some { c with logicos := l' } ∧
      ∀ j, j ≠ i → l'.lookup j = l.lookup j := by
  rw [quitarBloque_carpetas]
  cases h : s.desenlazar f i with
  | none => exact ⟨l, hl, fun _ _ => rfl⟩
  | some s' =>
    obtain ⟨c₁, x, hc₁, _, rfl⟩ := desenlazar_some h
    rw [hl] at hc₁
    cases hc₁
    refine ⟨l.erase i, by simp [lookup_ponerCarpeta], fun j hj => ?_⟩
    rw [lookup_erase_ite, if_neg hj]

theorem quitarBloques_links (sb : Superbloque) (bloques : List Nat) (desde n : Nat) :
    ∀ (s : Storage Hash) (l : Dir Nat Nat),
    s.carpetas.lookup f = some { c with logicos := l } →
    ∃ l', (quitarBloques sb f bloques desde n s).carpetas.lookup f =
        some { c with logicos := l' } ∧ ∀ j, j < desde → l'.lookup j = l.lookup j := by
  induction n with
  | zero => intro s l hl; exact ⟨l, hl, fun _ _ => rfl⟩
  | succ n ih =>
    intro s l hl
    obtain ⟨l₁, hl₁, same₁⟩ := quitarBloque_links sb bloques (desde + n) hl
    obtain ⟨l', hl', same⟩ := ih _ l₁ hl₁
    exact ⟨l', hl', fun j hj => (same j hj).trans (same₁ j (by omega))⟩

theorem truncarFile_carpeta (sb : Superbloque) (hc : s.carpetas.lookup f = some c) (tamanio : Nat) :
    ((truncarFile sb s f tamanio).1 = false ∧
      ∃ l, (truncarFile sb s f tamanio).2.carpetas.lookup f = some { c with logicos := l } ∧
        ∀ j b, c.logicos.lookup j = some b → l.lookup j = some b) ∨
    (truncarFile sb s f tamanio).1 = true ∧ esProtegido f = false ∧
      ∃ l, (truncarFile sb s f tamanio).2.carpetas.lookup f =
          some ⟨tamanio, c.estado, bloquesFinales c.blocks (sb.bloquesLogicos tamanio), l⟩ ∧
        (∀ j, j < sb.bloquesLogicos tamanio → ∀ b, c.logicos.lookup j = some b →
          l.lookup j = some b) ∧
        ∀ j, sb.bloquesLogicos c.tamanio ≤ j → j < sb.bloquesLogicos tamanio →
          l.lookup j = some 0 := by
  have idle : truncarFile sb s f tamanio = (false, s) →
      (truncarFile sb s f tamanio).1 = false ∧
      ∃ l, (truncarFile sb s f tamanio).2.carpetas.lookup f = some { c with logicos := l } ∧
        ∀ j b, c.logicos.lookup j = some b → l.lookup j = some b := by
    intro run
    rw [run]
    exact ⟨rfl, c.logicos, hc, fun _ _ h => h⟩
  by_cases hp : esProtegido f = true
  · exact .inl (idle (by simp [truncarFile, hp]))
  by_cases closed : verificarSiCommited s f = true
  · exact .inl (idle (by simp [truncarFile, hp, closed]))
  simp only [truncarFile, hp, closed, hc, Bool.false_eq_true, if_false]
  obtain ⟨l₁, hl₁, kept₁, zeros⟩ := enlazarCeros_links
    (sb.bloquesLogicos tamanio - sb.bloquesLogicos c.tamanio) (sb.bloquesLogicos c.tamanio)
    s c.logicos hc
  split
  · rename_i failed
    exact .inl ⟨rfl, l₁, hl₁, kept₁⟩
  · rename_i grown
    obtain ⟨l, hl, same⟩ := quitarBloques_links sb c.blocks (sb.bloquesLogicos tamanio)
      (sb.bloquesLogicos c.tamanio - sb.bloquesLogicos tamanio) _ l₁ hl₁
    refine .inr ⟨rfl, by simp, l, ?_, ?_, ?_⟩
    · simp only [guardarTruncado, hl, lookup_ponerCarpeta, if_true]
    · intro j hj b hb
      rw [same j hj, kept₁ j b hb]
    · intro j lo hi
      rw [same j hi, zeros (by simpa using grown) j lo (by omega)]

theorem enlazado_cero (sano : Sano sb s) : s.Enlazado 0 :=
  ⟨initialFileBase, 0, destino_some.mpr ⟨carpetaBase, sano.base, by decide⟩⟩

theorem truncarFile_suelta (sano : Sano sb s) (tamanio : Nat) :
    Suelta s (truncarFile sb s f tamanio).2 := by
  unfold truncarFile
  split
  · exact suelta_refl s
  rename_i unprotected
  have noBase : f ≠ initialFileBase := sin_proteger_ne_inicial (by simpa using unprotected)
  split
  · exact suelta_refl s
  split
  · exact suelta_refl s
  rename_i c hc
  dsimp only
  have grow := enlazarCeros_suelta f
    (sb.bloquesLogicos tamanio - sb.bloquesLogicos c.tamanio) (sb.bloquesLogicos c.tamanio) s
    (enlazado_cero sano)
  have weak : Apta sb False s := apta_debil sano
  have steps := enlazarCeros_pasos noBase
    (sb.bloquesLogicos tamanio - sb.bloquesLogicos c.tamanio) (sb.bloquesLogicos c.tamanio) s weak
  split
  · exact grow
  · have shrink := quitarBloques_suelta noBase c.blocks (sb.bloquesLogicos tamanio)
      (sb.bloquesLogicos c.tamanio - sb.bloquesLogicos tamanio) _
      (sano_primitivas steps sano noBase)
    refine suelta_trans (suelta_trans grow shrink) ?_
    unfold guardarTruncado
    split
    · exact suelta_refl _
    · rename_i c' hc'
      refine suelta_de_links (mismoDisco_ponerCarpeta _ f _) ?_
      intro g j b hd
      rw [destino_ponerCarpeta] at hd
      split at hd
      · rename_i hg
        exact ⟨f, j, by rw [destino_of_lookup hc']; exact hd⟩
      · exact ⟨g, j, hd⟩

theorem trasPedido_lookup_otro [DecidableEq Hash] (md5 : Bytes → Hash) (p : Pedido)
    (sano : Sano sb s) (other : g ≠ p.objetivo) :
    (trasPedido sb md5 s p).carpetas.lookup g = s.carpetas.lookup g := by
  by_cases isCommit : ∃ f, p = .commit f
  · obtain ⟨f, rfl⟩ := isCommit
    rcases commit_cases sb md5 f sano with ⟨same, _⟩ | ⟨c, _, _, _, done⟩
    · rw [same]
    · exact done.otros g other
  · have steps : Primitivas sb False p.objetivo s (trasPedido sb md5 s p) :=
      trasPedido_pasos (apta_debil sano) fun f hf => isCommit ⟨f, hf⟩
    exact primitivas_lookup_otro steps other

theorem crearFile_disco (s : Storage Hash) (f : FileTag) : MismoDisco s (crearFile s f).2 := by
  rcases crearFile_cases s f with ⟨_, _, same⟩ | ⟨_, made⟩
  · rw [same]
    exact ⟨rfl, rfl, rfl, rfl⟩
  · rw [made]
    exact mismoDisco_ponerCarpeta s f _

theorem tagFile_disco (s : Storage Hash) (origen destino : FileTag) :
    MismoDisco s (tagFile s origen destino).2 := by
  rcases tagFile_cases s origen destino with same | ⟨_, _, _, _, made⟩
  · rw [same]
    exact ⟨rfl, rfl, rfl, rfl⟩
  · rw [made]
    exact mismoDisco_ponerCarpeta s destino _

/-- The blocks a request may take and write: those of an accepted WRITE_BLOCK or FLUSH. -/
def tomables (sb : Superbloque) (s : Storage Hash) : Pedido → List Nat
  | .escribir f bloque _ => match s.carpetas.lookup f with
    | none => []
    | some c => if esProtegido f = false ∧ c.estado ≠ .commited ∧ EnRango sb c bloque
      then (freeSlots sb.cantidadBloques s.bitmap).take 1 else []
  | .flush f paginas cantidad => match s.carpetas.lookup f with
    | none => []
    | some c => if esProtegido f = false ∧ c.estado ≠ .commited
      then (freeSlots sb.cantidadBloques s.bitmap).take
        (paginasEnRango sb c paginas cantidad).length
      else []
  | _ => []

theorem trasPedido_datos [DecidableEq Hash] (md5 : Bytes → Hash) (p : Pedido)
    (sano : Sano sb s) :
    (∀ b, b ∉ tomables sb s p → (trasPedido sb md5 s p).datos b = s.datos b) ∧
      ((∀ f, p ≠ .commit f) → (trasPedido sb md5 s p).indice = s.indice) := by
  have idle : trasPedido sb md5 s p = s →
      (∀ b, b ∉ tomables sb s p → (trasPedido sb md5 s p).datos b = s.datos b) ∧
        ((∀ f, p ≠ .commit f) → (trasPedido sb md5 s p).indice = s.indice) := by
    intro same
    rw [same]
    exact ⟨fun _ _ => rfl, fun _ => rfl⟩
  cases p with
  | crear f =>
    have same := crearFile_disco s f
    exact ⟨fun b _ => congrFun same.datos b, fun _ => same.indice⟩
  | truncar f tamanio =>
    have loose := truncarFile_suelta (f := f) sano tamanio
    exact ⟨fun b _ => congrFun loose.datos b, fun _ => loose.indice⟩
  | tag origen destino =>
    have same := tagFile_disco s origen destino
    exact ⟨fun b _ => congrFun same.datos b, fun _ => same.indice⟩
  | escribir f bloque contenido =>
    cases hc : s.carpetas.lookup f with
    | none => exact idle (by simp [trasPedido, atender, escribirBloque, hc])
    | some c =>
      obtain ⟨same | range, rewritten⟩ := escribirBloque_reescrita sano hc bloque contenido
      · exact idle same
      · rcases rewritten.toma with same | ⟨unprotected, open_, toma⟩
        · exact idle same
        · refine ⟨fun b outside => toma.datos b ?_, fun _ => toma.indice⟩
          simpa [tomables, hc, unprotected, open_, range] using outside
  | flush f paginas cantidad =>
    cases hc : s.carpetas.lookup f with
    | none => exact idle (by simp [trasPedido, atender, flushArchivo, hc])
    | some c =>
      rcases (flushArchivo_reescrita sano hc paginas cantidad).toma
        with same | ⟨unprotected, open_, toma⟩
      · exact idle same
      · refine ⟨fun b outside => toma.datos b ?_, fun _ => toma.indice⟩
        simpa [tomables, hc, unprotected, open_] using outside
  | commit f =>
    rcases commit_cases sb md5 f sano with ⟨same, _⟩ | ⟨c, _, _, _, done⟩
    · exact idle same
    · exact ⟨fun b _ => congrFun done.datos b, fun noCommit => (noCommit f rfl).elim⟩
  | eliminar f =>
    have loose := eliminarFileTag_suelta (f := f) sano
    exact ⟨fun b _ => congrFun loose.datos b, fun _ => loose.indice⟩

theorem tomables_libres (p : Pedido) (h : b ∈ tomables sb s p) :
    1 ≤ b ∧ b < sb.cantidadBloques ∧ s.bitmap b = false := by
  have free : ∀ n, b ∈ (freeSlots sb.cantidadBloques s.bitmap).take n →
      1 ≤ b ∧ b < sb.cantidadBloques ∧ s.bitmap b = false :=
    fun n taken => mem_freeSlots.mp (List.mem_of_mem_take taken)
  cases p with
  | escribir f bloque contenido =>
    simp only [tomables] at h
    split at h
    · contradiction
    · split at h
      · exact free 1 h
      · contradiction
  | flush f paginas cantidad =>
    simp only [tomables] at h
    split at h
    · contradiction
    · split at h
      · exact free _ h
      · contradiction
  | _ => contradiction

/-- |BLOCKS| is what TAMANIO asks for, except in initial_file:BASE. -/
def Largos (sb : Superbloque) (s : Storage Hash) : Prop :=
  ∀ f c, f ≠ initialFileBase → s.carpetas.lookup f = some c →
    c.blocks.length = sb.bloquesLogicos c.tamanio

theorem largos_formatearFs (sb : Superbloque) : Largos sb (formatearFs sb : Storage Hash) := by
  intro f c noBase hc
  rw [lookup_formatearFs, if_neg noBase] at hc
  contradiction

theorem largos_of_target (all : Largos sb s)
    (otras : ∀ g, g ≠ f → s'.carpetas.lookup g = s.carpetas.lookup g)
    (propia : f ≠ initialFileBase → ∀ c, s'.carpetas.lookup f = some c →
      c.blocks.length = sb.bloquesLogicos c.tamanio) : Largos sb s' := by
  intro g c noBase hc
  by_cases hg : g = f
  · subst hg
    exact propia noBase c hc
  · rw [otras g hg] at hc
    exact all g c noBase hc

theorem largo_salvo {escritos : List Nat} (all : Largos sb s) (hc : s.carpetas.lookup f = some c)
    (noBase : f ≠ initialFileBase)
    (folder : ∃ c', s'.carpetas.lookup f = some c' ∧ SalvoBloques escritos c c') :
    ∀ c', s'.carpetas.lookup f = some c' → c'.blocks.length = sb.bloquesLogicos c'.tamanio := by
  obtain ⟨c₁, hc₁, rest⟩ := folder
  intro c' hc'
  cases hc₁.symm.trans hc'
  rw [rest.largo, rest.tamanio]
  exact all f c noBase hc

theorem largos_trasPedido [DecidableEq Hash] (md5 : Bytes → Hash) (p : Pedido) (sano : Sano sb s)
    (all : Largos sb s) : Largos sb (trasPedido sb md5 s p) := by
  refine largos_of_target all (f := p.objetivo)
    (fun g other => trasPedido_lookup_otro md5 p sano other) ?_
  intro noBase c' hc'
  have idle : trasPedido sb md5 s p = s → c'.blocks.length = sb.bloquesLogicos c'.tamanio := by
    intro same
    rw [same] at hc'
    exact all _ c' noBase hc'
  cases p with
  | crear f =>
    rcases crearFile_cases s f with ⟨_, _, same⟩ | ⟨_, made⟩
    · exact idle (congrArg Prod.snd same)
    · rw [trasPedido, atender, made, Pedido.objetivo, lookup_ponerCarpeta, if_pos rfl] at hc'
      cases hc'
      exact (bloquesLogicos_zero sb).symm
  | truncar f tamanio =>
    cases hc : s.carpetas.lookup f with
    | none => exact idle (by simp [trasPedido, atender, truncarFile, hc])
    | some c =>
      rcases truncarFile_carpeta sb hc tamanio
        with ⟨_, l, hl, _⟩ | ⟨_, _, l, hl, _, _⟩ <;> cases hl.symm.trans hc'
      · exact all f c noBase hc
      · exact bloquesFinales_length c.blocks _
  | tag origen destino =>
    rcases tagFile_cases s origen destino with same | ⟨c, hp, ho, _, made⟩
    · exact idle (congrArg Prod.snd same)
    · rw [trasPedido, atender, made, Pedido.objetivo, lookup_ponerCarpeta, if_pos rfl] at hc'
      cases hc'
      exact all origen c (sin_proteger_ne_inicial hp) ho
  | escribir f bloque contenido =>
    cases hc : s.carpetas.lookup f with
    | none => exact idle (by simp [trasPedido, atender, escribirBloque, hc])
    | some c =>
      exact largo_salvo all hc noBase
        (escribirBloque_reescrita sano hc bloque contenido).2.carpeta c' hc'
  | flush f paginas cantidad =>
    cases hc : s.carpetas.lookup f with
    | none => exact idle (by simp [trasPedido, atender, flushArchivo, hc])
    | some c =>
      exact largo_salvo all hc noBase (flushArchivo_reescrita sano hc paginas cantidad).carpeta
        c' hc'
  | commit f =>
    rcases commit_cases sb md5 f sano with ⟨same, _⟩ | ⟨c, _, hc, _, done⟩
    · exact idle same
    · obtain ⟨l, hl, _⟩ := done.carpeta
      cases hl.symm.trans hc'
      rw [← all f c noBase hc]
      dsimp only
      split
      · simp
      · rfl
  | eliminar f =>
    rcases eliminarFileTag_cases sb s f with same | ⟨_, _, _, gone⟩
    · exact idle (congrArg Prod.snd same)
    · rw [trasPedido, atender, gone, Pedido.objetivo, lookup_borrarCarpeta, if_pos rfl] at hc'
      contradiction

end StorageTomas
