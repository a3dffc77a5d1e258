import MasterOfFiles.Storage.Primitivas

/-!
The operations refine the block store: each one, from a state that meets the guards, is
a sequence of primitive steps for the File:Tag it targets. COMMIT is one in the weak
sense only, because evitar_duplicidad clears bits without looking at the links left.
-/
namespace StoragePasos
open StorageEstado StorageArchivos StorageEscritura StorageCommit StoragePrimitivas
open LinkDirectory FirstFit Relation

variable {Hash : Type} {sb : Superbloque} {estricta : Prop} {f g : FileTag}
  {s s' : Storage Hash} {c : Carpeta} {i b actual nuevo : Nat}

theorem crearFile_pasos (s : Storage Hash) (f : FileTag) :
    Primitivas sb estricta f s (crearFile s f).2 := by
  rcases crearFile_cases s f with ⟨_, _, same⟩ | ⟨_, made⟩
  · rw [same]
  · rw [made]
    exact .single (.carpeta s _ (by intro i b h; simp at h))

theorem enlazarCeros_pasos (noBase : f ≠ initialFileBase) (n : Nat) :
    ∀ (i : Nat) (s : Storage Hash), Apta sb estricta s →
      Primitivas sb estricta f s (enlazarCeros f n i s).2 := by
  induction n with
  | zero => intro i s _; exact .refl
  | succ n ih =>
    intro i s apta
    simp only [enlazarCeros]
    cases h : s.enlazar 0 f i with
    | none => exact .refl
    | some s' =>
      have step := primitiva_enlazar apta (apta_cero apta).2 h
      have next := apta_primitivas (.single step) apta noBase
      exact .head step (ih (i + 1) s' next)

theorem marcarBloqueLibre_pasos (libre : estricta → ¬ s.Enlazado b) :
    Primitivas sb estricta f s (s.marcarBloqueLibre sb b) := by
  unfold Storage.marcarBloqueLibre
  split
  · exact .refl
  · split
    · exact .refl
    · exact .single (.liberar s b libre)

theorem quitarBloque_pasos (apta : Apta sb estricta s) (bloques : List Nat) (i : Nat) :
    Primitivas sb estricta f s (quitarBloque sb f bloques i s) := by
  refine (primitivas_desenlazar_getD apta i).trans ?_
  simp only [quitarBloque]
  split
  · rename_i ok
    exact marcarBloqueLibre_pasos fun _ => (nlink_one_of_existe ok.1).mp ok.2
  · exact .refl

theorem quitarBloques_pasos (noBase : f ≠ initialFileBase) (bloques : List Nat) (desde n : Nat) :
    ∀ s : Storage Hash, Apta sb estricta s →
      Primitivas sb estricta f s (quitarBloques sb f bloques desde n s) := by
  induction n with
  | zero => intro s _; exact .refl
  | succ n ih =>
    intro s apta
    have step := quitarBloque_pasos (f := f) apta bloques (desde + n)
    exact step.trans (ih _ (apta_primitivas step apta noBase))

theorem guardarTruncado_pasos (apta : Apta sb estricta s) (tamanio : Nat) (blocks : List Nat) :
    Primitivas sb estricta f s (guardarTruncado s f tamanio blocks) := by
  unfold guardarTruncado
  split
  · exact .refl
  · rename_i c hc
    exact .single (primitiva_metadata apta hc rfl)

theorem truncarFile_pasos (apta : Apta sb estricta s) (tamanio : Nat) :
    Primitivas sb estricta f s (truncarFile sb s f tamanio).2 := by
  unfold truncarFile
  split
  · exact .refl
  rename_i unprotected
  have noBase : f ≠ initialFileBase := sin_proteger_ne_inicial (by simpa using unprotected)
  split
  · exact .refl
  split
  · exact .refl
  rename_i c hc
  dsimp only
  have grow := enlazarCeros_pasos noBase
    (sb.bloquesLogicos tamanio - sb.bloquesLogicos c.tamanio) (sb.bloquesLogicos c.tamanio) s apta
  split
  · exact grow
  · have grown := apta_primitivas grow apta noBase
    have shrink := quitarBloques_pasos noBase c.blocks (sb.bloquesLogicos tamanio)
      (sb.bloquesLogicos c.tamanio - sb.bloquesLogicos tamanio) _ grown
    have shrunk := apta_primitivas shrink grown noBase
    exact (grow.trans shrink).trans (guardarTruncado_pasos shrunk _ _)

theorem tagFile_pasos (apta : Apta sb estricta s) (origen destino : FileTag) :
    Primitivas sb estricta destino s (tagFile s origen destino).2 := by
  rcases tagFile_cases s origen destino with same | ⟨c, _, hc, _, made⟩
  · rw [same]
  · rw [made]
    exact .single (.carpeta s _ fun i b hl => apta_links apta hc hl)

theorem desenlazarTodos_pasos (noBase : f ≠ initialFileBase) (n : Nat) :
    ∀ (i : Nat) (s : Storage Hash), Apta sb estricta s →
      Primitivas sb estricta f s (desenlazarTodos f n i s) := by
  induction n with
  | zero => intro i s _; exact .refl
  | succ n ih =>
    intro i s apta
    have step := primitivas_desenlazar_getD (f := f) apta i
    exact step.trans (ih (i + 1) _ (apta_primitivas step apta noBase))

theorem liberarFisico_pasos (apta : Apta sb estricta s) (b : Nat) :
    Primitivas sb estricta f s (liberarFisico sb s b) := by
  unfold liberarFisico
  split
  · rename_i he
    split
    · rename_i few
      have free : ¬ s.Enlazado b := (nlink_le_one_of_existe he).mp few
      exact .tail (.single (.borrarFisico s b free)) (.liberar _ b fun _ => free)
    · exact .refl
  · rename_i missing
    split
    · refine .single (.liberar s b fun _ => ?_)
      rintro ⟨g, i, hd⟩
      exact missing (apta.sano.fisicos g i b hd)
    · exact .refl

theorem liberarFisicos_pasos (noBase : f ≠ initialFileBase) (bloques : List Nat) :
    ∀ s : Storage Hash, Apta sb estricta s →
      Primitivas sb estricta f s (bloques.foldl (liberarFisico sb) s) := by
  induction bloques with
  | nil => intro s _; exact .refl
  | cons b rest ih =>
    intro s apta
    have step := liberarFisico_pasos (f := f) apta b
    exact step.trans (ih _ (apta_primitivas step apta noBase))

theorem eliminarFileTag_pasos (apta : Apta sb estricta s) :
    Primitivas sb estricta f s (eliminarFileTag sb s f).2 := by
  rcases eliminarFileTag_cases sb s f with same | ⟨c, unprotected, hc, gone⟩
  · rw [same]
  rw [gone]
  have noBase : f ≠ initialFileBase := sin_proteger_ne_inicial unprotected
  have unlink := desenlazarTodos_pasos noBase c.blocks.length 0 s apta
  have unlinked := apta_primitivas unlink apta noBase
  have free := liberarFisicos_pasos noBase c.blocks _ unlinked
  exact .tail (.tail (unlink.trans free) (.persistir _)) (.borrar _)

theorem copiarFisico_eq (s : Storage Hash) (actual nuevo : Nat) :
    copiarFisico sb s actual nuevo = { s with
      existe := Function.update s.existe nuevo true
      datos := Function.update s.datos nuevo
        (((s.abrirVacio nuevo).datos actual).take sb.tamanioBloque) } := by
  simp [copiarFisico, Storage.abrirVacio, Function.update_idem]

theorem ponerCarpeta_ponerCarpeta (s : Storage Hash) (f : FileTag) (c c' : Carpeta) :
    (s.ponerCarpeta f c).ponerCarpeta f c' = s.ponerCarpeta f c' := by
  simp [Storage.ponerCarpeta, AList.insert_insert]

theorem escrituraDiferenciada_cases (sb : Superbloque) (actual : Nat)
    (hc : s.carpetas.lookup f = some c) (hl : c.logicos.lookup i = some b) :
    (firstFree sb.cantidadBloques s.bitmap = none ∧
      escrituraDiferenciada sb s f i actual = .sinEspacio) ∨
    ∃ nuevo, firstFree sb.cantidadBloques s.bitmap = some nuevo ∧
      ((s.existe actual = false ∧ escrituraDiferenciada sb s f i actual =
          .revertida (((s.ocupar nuevo).abrirVacio nuevo).liberar nuevo)) ∨
        (s.existe actual = true ∧ escrituraDiferenciada sb s f i actual =
          .hecha nuevo ((copiarFisico sb (s.ocupar nuevo) actual nuevo).ponerCarpeta f
            { c with logicos := (c.logicos.erase i).insert i nuevo }))) := by
  unfold escrituraDiferenciada
  cases hn : firstFree sb.cantidadBloques s.bitmap with
  | none => exact .inl ⟨rfl, rfl⟩
  | some nuevo =>
    refine .inr ⟨nuevo, rfl, ?_⟩
    dsimp only
    cases he : s.existe actual with
    | false => exact .inl ⟨rfl, by simp [Storage.ocupar, he]⟩
    | true =>
      refine .inr ⟨rfl, ?_⟩
      have hc' : (copiarFisico sb (s.ocupar nuevo) actual nuevo).carpetas.lookup f = some c := hc
      have opened : (copiarFisico sb (s.ocupar nuevo) actual nuevo).existe nuevo = true := by
        simp [copiarFisico_eq]
      rw [if_neg (by simp [Storage.ocupar, he]), desenlazar_eq_some hc' hl]
      dsimp only
      rw [enlazar_eq_some (c := { c with logicos := c.logicos.erase i })
        (s := (copiarFisico sb (s.ocupar nuevo) actual nuevo).ponerCarpeta f
          { c with logicos := c.logicos.erase i })
        (by simp [lookup_ponerCarpeta]) opened (AList.lookup_erase i c.logicos)]
      simp only [ponerCarpeta_ponerCarpeta]

theorem libre_sin_enlaces (apta : Apta sb estricta s)
    (hn : firstFree sb.cantidadBloques s.bitmap = some nuevo) :
    estricta → ∀ g i, s.destino g i ≠ some nuevo := by
  intro he g i hd
  have used := apta.uso he g i nuevo hd
  have free := (firstFree_some hn).2.2
  rw [used] at free
  contradiction

theorem revertida_pasos (apta : Apta sb estricta s)
    (hn : firstFree sb.cantidadBloques s.bitmap = some nuevo) :
    Primitivas sb estricta f s (((s.ocupar nuevo).abrirVacio nuevo).liberar nuevo) := by
  have free := libre_sin_enlaces apta hn
  have reserve : Primitiva sb estricta f s (s.ocupar nuevo) :=
    .ocupar s nuevo (firstFree_some hn).2.1
  have empty : Primitiva sb estricta f (s.ocupar nuevo) ((s.ocupar nuevo).abrirVacio nuevo) :=
    .contenido (s.ocupar nuevo) nuevo [] fun he g i hd => (free he g i hd).elim
  refine .tail (.tail (.single reserve) empty) (.liberar _ nuevo fun he => ?_)
  rintro ⟨g, i, hd⟩
  exact free he g i hd

theorem destino_moved (hc : s.carpetas.lookup f = some c) (actual nuevo : Nat) (g : FileTag)
    (j : Nat) :
    ((copiarFisico sb (s.ocupar nuevo) actual nuevo).ponerCarpeta f
      { c with logicos := (c.logicos.erase i).insert i nuevo }).destino g j =
      if g = f ∧ j = i then some nuevo else s.destino g j := by
  rw [destino_ponerCarpeta]
  by_cases hg : g = f
  · subst hg
    by_cases hj : j = i
    · simp [hj, lookup_insert_ite]
    · simp only [hj, lookup_insert_ite, lookup_erase_ite, destino_of_lookup hc, and_false, ↓reduceIte]
  · simp only [hg, ↓reduceIte, false_and]
    rfl

theorem hecha_pasos (actual i : Nat) (apta : Apta sb estricta s) (noBase : f ≠ initialFileBase)
    (hc : s.carpetas.lookup f = some c)
    (hn : firstFree sb.cantidadBloques s.bitmap = some nuevo) :
    Primitivas sb estricta f s ((copiarFisico sb (s.ocupar nuevo) actual nuevo).ponerCarpeta f
        { c with logicos := (c.logicos.erase i).insert i nuevo }) ∧
      (estricta → ∀ g j, ((copiarFisico sb (s.ocupar nuevo) actual nuevo).ponerCarpeta f
        { c with logicos := (c.logicos.erase i).insert i nuevo }).destino g j = some nuevo →
          g = f) := by
  have free := libre_sin_enlaces apta hn
  have reserve : Primitiva sb estricta f s (s.ocupar nuevo) :=
    .ocupar s nuevo (firstFree_some hn).2.1
  have copy : Primitiva sb estricta f (s.ocupar nuevo)
      (copiarFisico sb (s.ocupar nuevo) actual nuevo) := by
    rw [copiarFisico_eq]
    exact .contenido _ nuevo _ fun he g i hd => (free he g i hd).elim
  have start : Primitivas sb estricta f s (copiarFisico sb (s.ocupar nuevo) actual nuevo) :=
    .tail (.single reserve) copy
  have copied := apta_primitivas start apta noBase
  constructor
  · refine .tail start (.carpeta _ _ ?_)
    intro j x hl
    rw [lookup_insert_ite] at hl
    split at hl
    · cases hl
      simp [copiarFisico_eq, Storage.ocupar]
    · rename_i hj
      rw [lookup_erase_ite, if_neg hj] at hl
      exact apta_links copied (f := f) hc hl
  · intro he g j hd
    rw [destino_moved hc] at hd
    split at hd
    · rename_i hg; exact hg.1
    · exact (free he g j hd).elim

theorem nlink_ne_one_of_link (hd : s.destino f i = some b) (he : s.existe b = true) :
    s.nlink b ≠ 1 :=
  fun alone => (nlink_one_of_existe he).mp alone ⟨f, i, hd⟩

theorem nlink_ne_one (sano : Sano sb s) (hd : s.destino f i = some b) : s.nlink b ≠ 1 :=
  nlink_ne_one_of_link hd (sano.fisicos f i b hd)

theorem escribirEnFinal_pasos {contenido : Bytes}
    (propio : estricta → ∀ g i, s.destino g i = some b → g = f) :
    Primitivas sb estricta f s (escribirEnFinal s b contenido).2 := by
  unfold escribirEnFinal
  cases h : s.escribirFisico b contenido with
  | none => exact .refl
  | some s' => exact .single (primitiva_escribirFisico propio h)

theorem guardarBlocks_pasos (apta : Apta sb estricta s) (blocks : List Nat) :
    Primitivas sb estricta f s (guardarBlocks s f blocks) := by
  unfold guardarBlocks
  split
  · exact .refl
  · rename_i c hc
    exact .single (primitiva_metadata apta hc rfl)

theorem guardarBlocks_mismo (s : Storage Hash) (f : FileTag) (blocks : List Nat) :
    MismoDisco s (guardarBlocks s f blocks) := by
  unfold guardarBlocks
  split
  · exact ⟨rfl, rfl, rfl, rfl⟩
  · exact mismoDisco_ponerCarpeta s f _

theorem guardarBlocks_ajena (s : Storage Hash) (blocks : List Nat) (other : g ≠ f) :
    (guardarBlocks s f blocks).carpetas.lookup g = s.carpetas.lookup g := by
  unfold guardarBlocks
  split
  · rfl
  · rw [lookup_ponerCarpeta, if_neg other]

theorem destino_guardarBlocks (s : Storage Hash) (f g : FileTag) (blocks : List Nat) (i : Nat) :
    (guardarBlocks s f blocks).destino g i = s.destino g i := by
  unfold guardarBlocks
  cases hc : s.carpetas.lookup f with
  | none => rfl
  | some c =>
    rw [destino_ponerCarpeta]
    split
    · rename_i hg; rw [hg, destino_of_lookup hc]
    · rfl

theorem escribirBloque_pasos (apta : Apta sb estricta s) (bloque : Int) (contenido : Bytes) :
    Primitivas sb estricta f s (escribirBloque sb s f bloque contenido).2 := by
  unfold escribirBloque
  split
  · exact .refl
  rename_i unprotected
  have noBase : f ≠ initialFileBase := sin_proteger_ne_inicial (by simpa using unprotected)
  split
  · exact .refl
  split
  · exact .refl
  rename_i c hc
  split
  · exact .refl
  split
  · exact .refl
  dsimp only
  split
  · exact .refl
  rename_i b hd
  rw [if_neg (nlink_ne_one apta.sano hd)]
  rw [destino_of_lookup hc] at hd
  rcases escrituraDiferenciada_cases sb (c.blocks.getD bloque.toNat 0) hc hd
    with ⟨_, run⟩ | ⟨nuevo, hn, ⟨_, run⟩ | ⟨_, run⟩⟩
  · rw [run]
  · rw [run]; exact revertida_pasos apta hn
  · rw [run]
    dsimp only
    obtain ⟨move, alone⟩ := hecha_pasos (c.blocks.getD bloque.toNat 0) bloque.toNat apta noBase
      hc hn
    have moved := apta_primitivas move apta noBase
    have save := guardarBlocks_pasos (f := f) moved (c.blocks.set bloque.toNat nuevo)
    refine (move.trans save).trans (escribirEnFinal_pasos ?_)
    intro he g j hj
    rw [destino_guardarBlocks] at hj
    exact alone he g j hj

structure FaseSegura (sb : Superbloque) (estricta : Prop) (f : FileTag) (s : Storage Hash)
    (fase : FaseFlush Hash) : Prop where
  pasos : Primitivas sb estricta f s fase.storage
  propias : estricta → ∀ e ∈ fase.pendientes, ∀ g i,
    fase.storage.destino g i = some e.bloqueFinal → g = f

theorem propias_primitivas (h : Primitivas sb estricta f s s') {x : Nat}
    (propio : ∀ g i, s.destino g i = some x → g = f) :
    ∀ g i, s'.destino g i = some x → g = f := by
  intro g i hd
  by_cases hg : g = f
  · exact hg
  · rw [primitivas_destino_otro h hg] at hd
    exact propio g i hd

theorem faseSegura_pagina (apta : Apta sb estricta s) (noBase : f ≠ initialFileBase)
    (c0 : Carpeta) {fase : FaseFlush Hash} (safe : FaseSegura sb estricta f s fase)
    (pagina : Pagina) : FaseSegura sb estricta f s (prepararPagina sb f c0 fase pagina) := by
  have here := apta_primitivas safe.pasos apta noBase
  unfold prepararPagina
  split
  · exact ⟨safe.pasos, safe.propias⟩
  split
  · exact ⟨safe.pasos, safe.propias⟩
  dsimp only
  split
  · exact ⟨safe.pasos, safe.propias⟩
  rename_i b hd
  rw [if_neg (nlink_ne_one here.sano hd)]
  obtain ⟨c, hc, hl⟩ := destino_some.mp hd
  rcases escrituraDiferenciada_cases sb (c0.blocks.getD pagina.1.toNat 0) hc hl
    with ⟨_, run⟩ | ⟨nuevo, hn, ⟨_, run⟩ | ⟨_, run⟩⟩
  · rw [run]; exact ⟨safe.pasos, safe.propias⟩
  · rw [run]
    have undo := revertida_pasos (f := f) here hn
    exact ⟨safe.pasos.trans undo, fun he e me => propias_primitivas undo (safe.propias he e me)⟩
  · rw [run]
    obtain ⟨move, alone⟩ := hecha_pasos (c0.blocks.getD pagina.1.toNat 0) pagina.1.toNat here
      noBase hc hn
    refine ⟨safe.pasos.trans move, ?_⟩
    intro he e me
    rcases List.mem_append.mp me with old | new
    · exact propias_primitivas move (safe.propias he e old)
    · rw [List.mem_singleton.mp new]
      exact alone he

theorem faseSegura_pages (apta : Apta sb estricta s) (noBase : f ≠ initialFileBase)
    (c0 : Carpeta) (paginas : List Pagina) {fase : FaseFlush Hash}
    (safe : FaseSegura sb estricta f s fase) :
    FaseSegura sb estricta f s (paginas.foldl (prepararPagina sb f c0) fase) := by
  induction paginas generalizing fase with
  | nil => exact safe
  | cons p rest ih => exact ih (faseSegura_pagina apta noBase c0 safe p)

theorem escribirPendientes_pasos (pendientes : List EscrituraPendiente) :
    ∀ (ok : Bool) (s : Storage Hash),
      (estricta → ∀ e ∈ pendientes, ∀ g i, s.destino g i = some e.bloqueFinal → g = f) →
      Primitivas sb estricta f s (escribirPendientes sb ⟨s, ok, pendientes⟩).2 := by
  induction pendientes with
  | nil => intro ok s _; exact .refl
  | cons e rest ih =>
    intro ok s propias
    have write : Primitivas sb estricta f s
        (escribirEnFinal s e.bloqueFinal (e.contenido.take sb.tamanioBloque)).2 :=
      escribirEnFinal_pasos fun he => propias he e (by simp)
    refine write.trans (ih _ _ ?_)
    intro he e' me
    exact propias_primitivas write (propias he e' (List.mem_cons_of_mem e me))

theorem flushArchivo_pasos (apta : Apta sb estricta s) (paginas : List Pagina) (cantidad : Int) :
    Primitivas sb estricta f s (flushArchivo sb s f paginas cantidad).2 := by
  unfold flushArchivo
  split
  · exact .refl
  rename_i unprotected
  have noBase : f ≠ initialFileBase := sin_proteger_ne_inicial (by simpa using unprotected)
  split
  · exact .refl
  rename_i c hc
  split
  · exact .refl
  have start : FaseSegura sb estricta f s ⟨s, true, []⟩ := ⟨.refl, fun _ e me => by simp at me⟩
  have pages := faseSegura_pages apta noBase c (paginas.take cantidad.toNat) start
  generalize (paginas.take cantidad.toNat).foldl (prepararPagina sb f c) ⟨s, true, []⟩ = fase at pages
  dsimp only
  have closed : FaseSegura sb estricta f s
      (if paginas.length < cantidad.toNat then { fase with exitosas := false } else fase) := by
    split
    · exact ⟨pages.pasos, pages.propias⟩
    · exact pages
  generalize (if paginas.length < cantidad.toNat then { fase with exitosas := false }
    else fase) = fin at closed
  have done := apta_primitivas closed.pasos apta noBase
  have save : Primitivas sb estricta f fin.storage
      (if 0 < cantidad ∧ fin.exitosas = true ∧
          (fin.pendientes.any fun e => e.nuevoValor.isSome) = true then
        guardarBlocks fin.storage f (actualizarBlocks c.blocks fin.pendientes)
      else fin.storage) := by
    split
    · exact guardarBlocks_pasos done _
    · exact .refl
  generalize (if 0 < cantidad ∧ fin.exitosas = true ∧
      (fin.pendientes.any fun e => e.nuevoValor.isSome) = true then
        guardarBlocks fin.storage f (actualizarBlocks c.blocks fin.pendientes)
      else fin.storage) = saved at save
  have write : Primitivas sb estricta f saved
      (escribirPendientes sb { fin with storage := saved }).2 :=
    escribirPendientes_pasos fin.pendientes fin.exitosas saved
      fun he e me => propias_primitivas save (closed.propias he e me)
  split
  · exact .tail ((closed.pasos.trans save).trans write) (.persistir _)
  · exact (closed.pasos.trans save).trans write

end StoragePasos
