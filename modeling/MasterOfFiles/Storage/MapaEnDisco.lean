import MasterOfFiles.Storage.Tomas

/-!
bitmap.bin against the bitmap in memory. COMMIT, DELETE and an accepted FLUSH save it;
WRITE_BLOCK, TRUNCATE and a refused FLUSH change bits and do not.
-/
namespace StorageMapaEnDisco
open StorageEstado StorageArchivos StorageEscritura StorageCommit StoragePrimitivas StoragePasos
open StoragePedidos StorageDeduplicacion StorageAcuerdo StorageMovidas StorageMetadata
open StorageTomas LinkDirectory FirstFit GuardedRuns

variable {Hash : Type} {sb : Superbloque} {s s' : Storage Hash} {f : FileTag} {c : Carpeta}
  {i n b nuevo : Nat}

/-- Bytes of the bitmap, of its file and of what a restart reads. -/
def bytesNecesarios (sb : Superbloque) : Nat := (sb.cantidadBloques + 7) / 8

/-- inicializar_file_system with FRESH_START=FALSE: the first bytes of bitmap.bin. -/
def inicializarFileSystem (sb : Superbloque) (s : Storage Hash) : Storage Hash :=
  { s with bitmap := fun b => decide (b < 8 * bytesNecesarios sb) && s.bitmapEnDisco b }

/-- bitmap.bin holds the bitmap, and a restart reads it back. -/
structure MapaGuardado (sb : Superbloque) (s : Storage Hash) : Prop where
  enDisco : s.bitmapEnDisco = s.bitmap
  reinicio : (inicializarFileSystem sb s).bitmap = s.bitmap

theorem mapaGuardado_of_disco (sano : Sano sb s) (h : s.bitmapEnDisco = s.bitmap) :
    MapaGuardado sb s := by
  refine ⟨h, funext fun b => ?_⟩
  simp only [inicializarFileSystem, h]
  cases hb : s.bitmap b with
  | false => rw [Bool.and_false]
  | true =>
    have inside : b < 8 * bytesNecesarios sb := by
      have := sano.rango b hb
      simp only [bytesNecesarios]
      omega
    simp [inside]

structure MismoMapa (s s' : Storage Hash) : Prop where
  memoria : s'.bitmap = s.bitmap
  disco : s'.bitmapEnDisco = s.bitmapEnDisco

theorem mismoMapa_refl (s : Storage Hash) : MismoMapa s s := ⟨rfl, rfl⟩

theorem mismoMapa_trans {s₁ : Storage Hash} (first : MismoMapa s s₁) (second : MismoMapa s₁ s') :
    MismoMapa s s' :=
  ⟨second.memoria.trans first.memoria, second.disco.trans first.disco⟩

/-- Each block that the shrinking loop takes out is missing, free, or keeps a link to it outside
    of the blocks taken out. -/
def SinBloquesSueltos (sb : Superbloque) (s : Storage Hash) (f : FileTag) (c : Carpeta)
    (tamanio : Nat) : Prop :=
  ∀ i < sb.bloquesLogicos c.tamanio, sb.bloquesLogicos tamanio ≤ i ∧
      s.existe (c.blocks.getD i 0) = true ∧ s.bitmap (c.blocks.getD i 0) = true →
    ∃ l ∈ allLinks Carpeta.logicos s.carpetas, l.2.2 = c.blocks.getD i 0 ∧
      ¬ (l.1 = f ∧ sb.bloquesLogicos tamanio ≤ l.2.1 ∧ l.2.1 < sb.bloquesLogicos c.tamanio)

def Escribible (sb : Superbloque) (s : Storage Hash) (c : Carpeta) (bloque : Int) : Prop :=
  EnRango sb c bloque ∧ c.logicos.lookup bloque.toNat ≠ none ∧
    s.existe (c.blocks.getD bloque.toNat 0) = true

/-- FLUSH can move every page of the packet. -/
def FlushCompleto (sb : Superbloque) (s : Storage Hash) (c : Carpeta) (paginas : List Pagina)
    (cantidad : Int) : Prop :=
  (∀ p ∈ paginas.take cantidad.toNat, Escribible sb s c p.1) ∧
    cantidad.toNat ≤ paginas.length ∧
    (paginas.take cantidad.toNat).length ≤ (freeSlots sb.cantidadBloques s.bitmap).length

/-- FLUSH can move no page: none is writable, not even on the file that the undone
    reservation of an earlier page leaves behind, or no block is free. -/
def FlushNulo (sb : Superbloque) (s : Storage Hash) (c : Carpeta) (paginas : List Pagina)
    (cantidad : Int) : Prop :=
  firstFree sb.cantidadBloques s.bitmap = none ∨
    ∀ p ∈ paginas.take cantidad.toNat, ¬ Escribible sb s c p.1 ∧
      firstFree sb.cantidadBloques s.bitmap ≠ some (c.blocks.getD p.1.toNat 0)

def PedidoGuardado (sb : Superbloque) (s : Storage Hash) : Pedido → Prop
  | .truncar f tamanio => esProtegido f = false → ∀ c ∈ s.carpetas.lookup f,
      c.estado ≠ .commited → SinBloquesSueltos sb s f c tamanio
  | .escribir f bloque _ => esProtegido f = false → ∀ c ∈ s.carpetas.lookup f,
      c.estado ≠ .commited → Escribible sb s c bloque →
        firstFree sb.cantidadBloques s.bitmap = none
  | .flush f paginas cantidad => esProtegido f = false → ∀ c ∈ s.carpetas.lookup f,
      c.estado ≠ .commited →
        FlushCompleto sb s c paginas cantidad ∨ FlushNulo sb s c paginas cantidad
  | _ => True

instance (sb : Superbloque) (s : Storage Hash) (f : FileTag) (c : Carpeta) (tamanio : Nat) :
    Decidable (SinBloquesSueltos sb s f c tamanio) :=
  inferInstanceAs (Decidable (∀ i < _, _ ∧ _ ∧ _ → ∃ l ∈ _, _ ∧ ¬ _))

instance (sb : Superbloque) (s : Storage Hash) (c : Carpeta) (bloque : Int) :
    Decidable (Escribible sb s c bloque) :=
  inferInstanceAs (Decidable (_ ∧ _ ∧ _))

instance (sb : Superbloque) (s : Storage Hash) (c : Carpeta) (paginas : List Pagina)
    (cantidad : Int) : Decidable (FlushCompleto sb s c paginas cantidad) :=
  inferInstanceAs (Decidable (_ ∧ _ ∧ _))

instance (sb : Superbloque) (s : Storage Hash) (c : Carpeta) (paginas : List Pagina)
    (cantidad : Int) : Decidable (FlushNulo sb s c paginas cantidad) :=
  inferInstanceAs (Decidable (_ ∨ ∀ p ∈ _, ¬ _ ∧ _))

instance (sb : Superbloque) (s : Storage Hash) : ∀ p, Decidable (PedidoGuardado sb s p)
  | .truncar _ _ => inferInstanceAs (Decidable (_ → ∀ c ∈ _, _ → _))
  | .escribir _ _ _ => inferInstanceAs (Decidable (_ → ∀ c ∈ _, _ → _ → _))
  | .flush _ _ _ => inferInstanceAs (Decidable (_ → ∀ c ∈ _, _ → _ ∨ _))
  | .crear _ | .tag _ _ | .commit _ | .eliminar _ => inferInstanceAs (Decidable True)

theorem enlazarCeros_mapa (f : FileTag) (n : Nat) : ∀ (i : Nat) (s : Storage Hash),
    MismoMapa s (enlazarCeros f n i s).2 := by
  induction n with
  | zero => intro i s; exact mismoMapa_refl s
  | succ n ih =>
    intro i s
    simp only [enlazarCeros]
    cases h : s.enlazar 0 f i with
    | none => exact mismoMapa_refl s
    | some s' =>
      obtain ⟨c, _, _, _, rfl⟩ := enlazar_some h
      have step : MismoMapa s (s.ponerCarpeta f { c with logicos := c.logicos.insert i 0 }) :=
        ⟨rfl, rfl⟩
      exact mismoMapa_trans step (ih (i + 1) _)

def Queda (s : Storage Hash) (f : FileTag) (desde hasta b : Nat) : Prop :=
  ∃ g j, s.destino g j = some b ∧ ¬ (g = f ∧ desde ≤ j ∧ j < hasta)

theorem quitarBloque_mapa (sb : Superbloque) (bloques : List Nat) {desde hasta : Nat}
    (hi : desde ≤ i ∧ i < hasta)
    (stays : s.existe (bloques.getD i 0) = true → s.bitmap (bloques.getD i 0) = true →
      Queda s f desde hasta (bloques.getD i 0)) :
    MismoMapa s (quitarBloque sb f bloques i s) ∧
      (quitarBloque sb f bloques i s).existe = s.existe ∧
      ∀ g j, g ≠ f ∨ j ≠ i →
        (quitarBloque sb f bloques i s).destino g j = s.destino g j := by
  have unlink : MismoMapa s ((s.desenlazar f i).getD s) ∧
      ((s.desenlazar f i).getD s).existe = s.existe ∧
      ∀ g j, g ≠ f ∨ j ≠ i → ((s.desenlazar f i).getD s).destino g j = s.destino g j := by
    cases h : s.desenlazar f i with
    | none => exact ⟨mismoMapa_refl s, rfl, fun _ _ _ => rfl⟩
    | some s' =>
      refine ⟨?_, ?_, ?_⟩
      · obtain ⟨c, x, _, _, rfl⟩ := desenlazar_some h
        exact ⟨rfl, rfl⟩
      · obtain ⟨c, x, _, _, rfl⟩ := desenlazar_some h
        rfl
      · intro g j other
        rw [Option.getD_some, destino_desenlazar h, if_neg]
        rintro ⟨hg, hj⟩
        exact other.elim (fun ne => ne hg) fun ne => ne hj
  obtain ⟨maps, files, links⟩ := unlink
  simp only [quitarBloque]
  generalize (s.desenlazar f i).getD s = s₁ at maps files links ⊢
  split
  · rename_i alone
    have free : s₁.bitmap (bloques.getD i 0) = false := by
      by_contra used
      rw [Bool.not_eq_false, maps.memoria] at used
      obtain ⟨g, j, hd, outside⟩ := stays (files ▸ alone.1) used
      refine (nlink_one_of_existe alone.1).mp alone.2 ⟨g, j, ?_⟩
      rw [links g j, hd]
      by_cases hg : g = f
      · refine .inr ?_
        rintro rfl
        exact outside ⟨hg, hi⟩
      · exact .inl hg
    have same : s₁.marcarBloqueLibre sb (bloques.getD i 0) = s₁ := by
      simp only [Storage.marcarBloqueLibre, free, if_true, ite_self]
    rw [same]
    exact ⟨maps, files, links⟩
  · exact ⟨maps, files, links⟩

theorem quitarBloques_mapa (bloques : List Nat) (desde n : Nat) : ∀ s : Storage Hash,
    (∀ i, desde ≤ i → i < desde + n → s.existe (bloques.getD i 0) = true →
      s.bitmap (bloques.getD i 0) = true → Queda s f desde (desde + n) (bloques.getD i 0)) →
    MismoMapa s (quitarBloques sb f bloques desde n s) := by
  induction n with
  | zero => intro s _; exact mismoMapa_refl s
  | succ n ih =>
    intro s stays
    have last : desde ≤ desde + n ∧ desde + n < desde + (n + 1) := by omega
    obtain ⟨maps, files, links⟩ := quitarBloque_mapa sb bloques last
      (stays (desde + n) (by omega) (by omega))
    refine mismoMapa_trans maps (ih _ ?_)
    intro i lo hi he hb
    rw [files] at he
    rw [maps.memoria] at hb
    obtain ⟨g, j, hd, outside⟩ := stays i lo (by omega) he hb
    refine ⟨g, j, ?_, fun ⟨hg, lo, hi⟩ => outside ⟨hg, lo, by omega⟩⟩
    rw [links g j, hd]
    by_cases hg : g = f
    · refine .inr ?_
      rintro rfl
      exact outside ⟨hg, by omega, by omega⟩
    · exact .inl hg

theorem truncarFile_mapa (tamanio : Nat) (hc : s.carpetas.lookup f = some c)
    (keeps : SinBloquesSueltos sb s f c tamanio) : MismoMapa s (truncarFile sb s f tamanio).2 := by
  unfold truncarFile
  split
  · exact mismoMapa_refl s
  split
  · exact mismoMapa_refl s
  rw [hc]
  dsimp only
  have grow := enlazarCeros_mapa f
    (sb.bloquesLogicos tamanio - sb.bloquesLogicos c.tamanio) (sb.bloquesLogicos c.tamanio) s
  split
  · exact grow
  have save : ∀ (t : Storage Hash) (blocks : List Nat),
      MismoMapa t (guardarTruncado t f tamanio blocks) := by
    intro t blocks
    unfold guardarTruncado
    split <;> exact ⟨rfl, rfl⟩
  refine mismoMapa_trans ?_ (save _ _)
  rcases Nat.le_total (sb.bloquesLogicos c.tamanio) (sb.bloquesLogicos tamanio) with larger | smaller
  · rw [Nat.sub_eq_zero_of_le larger]
    exact grow
  · rw [Nat.sub_eq_zero_of_le smaller]
    simp only [enlazarCeros]
    refine quitarBloques_mapa c.blocks _ _ s ?_
    intro i lo hi he hb
    obtain ⟨⟨g, j, x⟩, hm, rfl, outside⟩ := keeps i (by omega) ⟨lo, he, hb⟩
    refine ⟨g, j, destino_some.mpr (mem_allLinks.mp hm), ?_⟩
    rw [Nat.add_sub_of_le smaller]
    exact outside

theorem revertida_mapa (hn : firstFree sb.cantidadBloques s.bitmap = some nuevo) :
    MismoMapa s (((s.ocupar nuevo).abrirVacio nuevo).liberar nuevo) := by
  have free := (firstFree_some hn).2.2
  refine ⟨?_, rfl⟩
  simp [Storage.ocupar, Storage.abrirVacio, Storage.liberar, Function.update_idem, ← free]

theorem escribirBloque_mapa (sano : Sano sb s) (hc : s.carpetas.lookup f = some c)
    (bloque : Int) (contenido : Bytes)
    (guard : PedidoGuardado sb s (.escribir f bloque contenido)) :
    MismoMapa s (escribirBloque sb s f bloque contenido).2 := by
  rcases escribirBloque_casos sano hc bloque contenido
    with run | ⟨⟨unprotected, open_, range⟩, linked, nuevo, hn, ⟨_, run⟩ | ⟨there, _⟩⟩
  · rw [run]
    exact mismoMapa_refl s
  · rw [run]
    exact revertida_mapa hn
  · have full := guard unprotected c hc open_ ⟨range, linked, there⟩
    rw [full] at hn
    contradiction

structure FaseNula (sb : Superbloque) (s : Storage Hash) (fase : FaseFlush Hash) : Prop where
  mapa : MismoMapa s fase.storage
  carpetas : fase.storage.carpetas = s.carpetas
  pendientes : fase.pendientes = []
  archivos : ∀ b, fase.storage.existe b = true →
    s.existe b = true ∨ firstFree sb.cantidadBloques s.bitmap = some b

theorem faseNula_pagina {fase : FaseFlush Hash} (h : FaseNula sb s fase)
    (sano : Sano sb fase.storage) (hc : s.carpetas.lookup f = some c) (pagina : Pagina)
    (cannot : firstFree sb.cantidadBloques s.bitmap = none ∨ ¬ Escribible sb s c pagina.1 ∧
      firstFree sb.cantidadBloques s.bitmap ≠ some (c.blocks.getD pagina.1.toNat 0)) :
    FaseNula sb s (prepararPagina sb f c fase pagina) := by
  have idle : FaseNula sb s { fase with exitosas := false } :=
    ⟨h.mapa, h.carpetas, h.pendientes, h.archivos⟩
  unfold prepararPagina
  split
  · exact idle
  rename_i inside
  split
  · exact idle
  rename_i short
  have range : EnRango sb c pagina.1 := ⟨inside, Nat.lt_of_not_le short⟩
  dsimp only
  cases hd : fase.storage.destino f pagina.1.toNat with
  | none => exact idle
  | some b =>
  dsimp only
  rw [if_neg (nlink_ne_one sano hd)]
  have hc' : fase.storage.carpetas.lookup f = some c := by rw [h.carpetas, hc]
  rw [destino_of_lookup hc'] at hd
  rcases escrituraDiferenciada_cases sb (c.blocks.getD pagina.1.toNat 0) hc' hd
    with ⟨_, copy⟩ | ⟨nuevo, hn, ⟨_, copy⟩ | ⟨there, _⟩⟩
  · rw [copy]
    exact idle
  · rw [copy]
    refine ⟨mismoMapa_trans h.mapa (revertida_mapa hn), h.carpetas, h.pendientes, ?_⟩
    intro b he
    simp only [Storage.ocupar, Storage.abrirVacio, Storage.liberar, Function.update_apply] at he
    split at he
    · rename_i new
      rw [new, ← h.mapa.memoria]
      exact .inr hn
    · exact h.archivos b he
  · rw [h.mapa.memoria] at hn
    rcases cannot with full | ⟨unwritable, notOwn⟩
    · rw [full] at hn
      contradiction
    · rcases h.archivos _ there with old | new
      · exact (unwritable ⟨range, by simp [hd], old⟩).elim
      · exact (notOwn new).elim

theorem faseNula_paginas (noBase : f ≠ initialFileBase) (hc : s.carpetas.lookup f = some c)
    (paginas : List Pagina) : ∀ {fase : FaseFlush Hash}, FaseNula sb s fase →
      Sano sb fase.storage →
      (∀ p ∈ paginas, firstFree sb.cantidadBloques s.bitmap = none ∨ ¬ Escribible sb s c p.1 ∧
        firstFree sb.cantidadBloques s.bitmap ≠ some (c.blocks.getD p.1.toNat 0)) →
      FaseNula sb s (paginas.foldl (prepararPagina sb f c) fase) := by
  induction paginas with
  | nil => intro fase h _ _; exact h
  | cons p rest ih =>
    intro fase h sano cannot
    exact ih (faseNula_pagina h sano hc p (cannot p (by simp))) (sano_pagina sano noBase c p)
      fun q hq => cannot q (List.mem_cons_of_mem p hq)

structure FaseCompleta (sb : Superbloque) (f : FileTag) (c : Carpeta) (faltan : Nat)
    (fase : FaseFlush Hash) : Prop where
  exitosas : fase.exitosas = true
  carpeta : ∃ l, fase.storage.carpetas.lookup f = some { c with logicos := l }
  libres : faltan ≤ (freeSlots sb.cantidadBloques fase.storage.bitmap).length
  finales : ∀ e ∈ fase.pendientes, fase.storage.existe e.bloqueFinal = true

theorem faseCompleta_pagina {fase : FaseFlush Hash} {faltan : Nat}
    (h : FaseCompleta sb f c (faltan + 1) fase) (sano : Sano sb fase.storage) (pagina : Pagina)
    (range : EnRango sb c pagina.1) (linked : fase.storage.destino f pagina.1.toNat ≠ none)
    (there : fase.storage.existe (c.blocks.getD pagina.1.toNat 0) = true) :
    FaseCompleta sb f c faltan (prepararPagina sb f c fase pagina) ∧
      (∀ i, fase.storage.destino f i ≠ none →
        (prepararPagina sb f c fase pagina).storage.destino f i ≠ none) ∧
      ∀ b, fase.storage.existe b = true →
        (prepararPagina sb f c fase pagina).storage.existe b = true := by
  obtain ⟨b, hd⟩ := Option.ne_none_iff_exists'.mp linked
  obtain ⟨l, hl⟩ := h.carpeta
  have hb := hd
  rw [destino_of_lookup hl] at hb
  unfold prepararPagina
  rw [if_neg range.1, if_neg (Nat.not_le.mpr range.2)]
  dsimp only
  rw [hd]
  dsimp only
  rw [if_neg (nlink_ne_one sano hd)]
  rcases escrituraDiferenciada_cases sb (c.blocks.getD pagina.1.toNat 0) hl hb
    with ⟨full, _⟩ | ⟨nuevo, hn, ⟨missing, _⟩ | ⟨_, copy⟩⟩
  · have room := h.libres
    rw [firstFree_none.mp full] at room
    simp at room
  · rw [there] at missing
    contradiction
  · rw [copy]
    have files : ∀ x, fase.storage.existe x = true →
        ((copiarFisico sb (fase.storage.ocupar nuevo) (c.blocks.getD pagina.1.toNat 0)
          nuevo).ponerCarpeta f { c with logicos :=
            (l.erase pagina.1.toNat).insert pagina.1.toNat nuevo }).existe x = true := by
      intro x hx
      simp only [copiarFisico_eq, Storage.ponerCarpeta, Storage.ocupar, Function.update_apply]
      split
      · rfl
      · exact hx
    refine ⟨⟨h.exitosas, ⟨_, by rw [lookup_ponerCarpeta, if_pos rfl]⟩, ?_, ?_⟩, ?_, files⟩
    · have room := h.libres
      rw [freeSlots_after_take hn] at room
      simpa [copiarFisico_eq, Storage.ponerCarpeta, Storage.ocupar] using room
    · intro e he
      rcases List.mem_append.mp he with old | new
      · exact files _ (h.finales e old)
      · rw [List.mem_singleton.mp new]
        simp [copiarFisico_eq, Storage.ponerCarpeta]
    · intro i hi
      rw [destino_moved hl]
      split
      · simp
      · exact hi

theorem faseCompleta_paginas (noBase : f ≠ initialFileBase) (paginas : List Pagina) :
    ∀ {fase : FaseFlush Hash}, FaseCompleta sb f c paginas.length fase → Sano sb fase.storage →
      (∀ p ∈ paginas, EnRango sb c p.1 ∧ fase.storage.destino f p.1.toNat ≠ none ∧
        fase.storage.existe (c.blocks.getD p.1.toNat 0) = true) →
      FaseCompleta sb f c 0 (paginas.foldl (prepararPagina sb f c) fase) := by
  induction paginas with
  | nil => intro fase h _ _; exact h
  | cons p rest ih =>
    intro fase h sano able
    obtain ⟨range, linked, there⟩ := able p (by simp)
    obtain ⟨next, links, files⟩ := faseCompleta_pagina h sano p range linked there
    refine ih next (sano_pagina sano noBase c p) ?_
    intro q hq
    obtain ⟨range', linked', there'⟩ := able q (List.mem_cons_of_mem p hq)
    exact ⟨range', links _ linked', files _ there'⟩

theorem escribirPendientes_todos (pendientes : List EscrituraPendiente) :
    ∀ (ok : Bool) (s₁ : Storage Hash),
      (∀ e ∈ pendientes, s₁.existe e.bloqueFinal = true) →
      (escribirPendientes sb ⟨s₁, ok, pendientes⟩).1 = ok := by
  induction pendientes with
  | nil => intro ok s₁ _; rfl
  | cons e rest ih =>
    intro ok s₁ there
    have he := there e (by simp)
    have write : (escribirEnFinal s₁ e.bloqueFinal (e.contenido.take sb.tamanioBloque)).1 = true ∧
        (escribirEnFinal s₁ e.bloqueFinal (e.contenido.take sb.tamanioBloque)).2.existe =
          s₁.existe := by
      simp [escribirEnFinal, Storage.escribirFisico, he]
    have rest_ := ih (ok && (escribirEnFinal s₁ e.bloqueFinal
        (e.contenido.take sb.tamanioBloque)).1) _
      fun e' he' => by rw [write.2]; exact there e' (List.mem_cons_of_mem e he')
    exact rest_.trans (by rw [write.1, Bool.and_true])

theorem flushArchivo_mapa (sano : Sano sb s) (hc : s.carpetas.lookup f = some c)
    (paginas : List Pagina) (cantidad : Int)
    (guard : PedidoGuardado sb s (.flush f paginas cantidad))
    (saved : s.bitmapEnDisco = s.bitmap) :
    (flushArchivo sb s f paginas cantidad).2.bitmapEnDisco =
      (flushArchivo sb s f paginas cantidad).2.bitmap := by
  by_cases hp : esProtegido f = true
  · simpa [flushArchivo, hp] using saved
  by_cases closed : c.estado = .commited
  · simpa [flushArchivo, hp, hc, verificarSiCommited, closed] using saved
  have unprotected : esProtegido f = false := by simpa using hp
  have noBase := sin_proteger_ne_inicial unprotected
  simp only [flushArchivo, hp, hc, verificarSiCommited, not_commited_beq closed,
    Bool.false_eq_true, if_false]
  rcases guard unprotected c hc closed with ⟨able, complete, room⟩ | nothing
  · have start : FaseCompleta sb f c (paginas.take cantidad.toNat).length ⟨s, true, []⟩ :=
      ⟨rfl, ⟨c.logicos, hc⟩, room, by simp⟩
    have loop := faseCompleta_paginas noBase (paginas.take cantidad.toNat) start sano
      fun p hp => ⟨(able p hp).1, by rw [destino_of_lookup hc]; exact (able p hp).2.1,
        (able p hp).2.2⟩
    generalize (paginas.take cantidad.toNat).foldl (prepararPagina sb f c) ⟨s, true, []⟩ = fase
      at loop ⊢
    rw [if_neg (Nat.not_lt.mpr complete)]
    have ok : ∀ s₁ : Storage Hash, s₁.existe = fase.storage.existe →
        (escribirPendientes sb ⟨s₁, fase.exitosas, fase.pendientes⟩).1 = true := by
      intro s₁ same
      rw [escribirPendientes_todos fase.pendientes fase.exitosas s₁
        fun e he => by rw [same]; exact loop.finales e he]
      exact loop.exitosas
    split
    · rw [if_pos (ok _ (guardarBlocks_mismo fase.storage f _).existe)]
      rfl
    · rw [if_pos (ok _ rfl)]
      rfl
  · have start : FaseNula sb s ⟨s, true, []⟩ := ⟨mismoMapa_refl s, rfl, rfl, fun _ h => .inl h⟩
    have loop := faseNula_paginas noBase hc (paginas.take cantidad.toNat) start sano
      fun p hp => nothing.imp id fun none_ => none_ p hp
    generalize (paginas.take cantidad.toNat).foldl (prepararPagina sb f c) ⟨s, true, []⟩ = fase
      at loop ⊢
    have pend : (if paginas.length < cantidad.toNat then { fase with exitosas := false }
        else fase).pendientes = [] := by
      split <;> exact loop.pendientes
    have stor : (if paginas.length < cantidad.toNat then { fase with exitosas := false }
        else fase).storage = fase.storage := by
      split <;> rfl
    generalize (if paginas.length < cantidad.toNat then { fase with exitosas := false }
        else fase) = fase' at pend stor ⊢
    rw [pend, stor]
    simp only [List.any_nil, Bool.false_eq_true, and_false, if_false, escribirPendientes,
      List.foldl_nil]
    split
    · rfl
    · exact loop.mapa.disco.trans (saved.trans loop.mapa.memoria.symm)

variable [DecidableEq Hash]

theorem trasPedido_mapa (md5 : Bytes → Hash) (p : Pedido) (sano : Sano sb s)
    (guard : PedidoGuardado sb s p) (saved : s.bitmapEnDisco = s.bitmap) :
    (trasPedido sb md5 s p).bitmapEnDisco = (trasPedido sb md5 s p).bitmap := by
  have same : MismoMapa s (trasPedido sb md5 s p) →
      (trasPedido sb md5 s p).bitmapEnDisco = (trasPedido sb md5 s p).bitmap := fun h =>
    h.disco.trans (saved.trans h.memoria.symm)
  have idle : trasPedido sb md5 s p = s →
      (trasPedido sb md5 s p).bitmapEnDisco = (trasPedido sb md5 s p).bitmap := by
    intro nothing
    rw [nothing]
    exact saved
  cases p with
  | crear f =>
    rcases crearFile_cases s f with ⟨_, _, refused⟩ | ⟨_, made⟩
    · exact idle (congrArg Prod.snd refused)
    · refine same ?_
      rw [trasPedido, atender, made]
      exact ⟨rfl, rfl⟩
  | truncar f tamanio =>
    cases hc : s.carpetas.lookup f with
    | none => exact idle (by simp [trasPedido, atender, truncarFile, hc])
    | some c =>
      by_cases hp : esProtegido f = true
      · exact idle (by simp [trasPedido, atender, truncarFile, hp])
      by_cases closed : c.estado = .commited
      · exact idle (trasPedido_commited hc closed (by simp))
      exact same (truncarFile_mapa tamanio hc (guard (by simpa using hp) c hc closed))
  | tag origen destino =>
    rcases tagFile_cases s origen destino with refused | ⟨_, _, _, _, made⟩
    · exact idle (congrArg Prod.snd refused)
    · refine same ?_
      rw [trasPedido, atender, made]
      exact ⟨rfl, rfl⟩
  | escribir f bloque contenido =>
    cases hc : s.carpetas.lookup f with
    | none => exact idle (by simp [trasPedido, atender, escribirBloque, hc])
    | some c => exact same (escribirBloque_mapa sano hc bloque contenido guard)
  | flush f paginas cantidad =>
    cases hc : s.carpetas.lookup f with
    | none => exact idle (by simp [trasPedido, atender, flushArchivo, hc])
    | some c => exact flushArchivo_mapa sano hc paginas cantidad guard saved
  | commit f =>
    simp only [trasPedido, atender, realizarCommit]
    split
    · exact saved
    split
    · exact saved
    split
    · exact saved
    · rfl
  | eliminar f =>
    rcases eliminarFileTag_cases sb s f with refused | ⟨_, _, _, gone⟩
    · exact idle (congrArg Prod.snd refused)
    · rw [trasPedido, atender, gone]
      rfl

/-- In a run whose requests meet the condition bitmap.bin is the bitmap after each of them, and
    a restart there reads the same map. -/
theorem pedidos_guardados_conservan_mapa (sb : Superbloque) (md5 : Bytes → Hash) {ps : List Pedido}
    (safe : Along (trasPedido sb md5) (PedidoGuardado sb) (formatearFs sb) ps) :
    ∀ pre, pre <+: ps → MapaGuardado sb (trasPedidos sb md5 pre) := by
  intro pre hp
  have reached := invariant_on_prefixes
    (fun s : Storage Hash => Sano sb s ∧ s.bitmapEnDisco = s.bitmap)
    (fun s p inv guard => ⟨sano_trasPedido p inv.1, trasPedido_mapa md5 p inv.1 guard inv.2⟩)
    ⟨sano_formatearFs sb, rfl⟩ safe pre hp
  exact mapaGuardado_of_disco reached.1 reached.2

def conFlush : List Pedido :=
  [.crear a1, .truncar a1 2, .flush a1 [(0, [120]), (1, [121])] 2, .tag a1 b1, .truncar b1 1,
    .commit a1, .eliminar a1, .flush b1 [(1, [122])] 1]

theorem pedidos_guardados_conservan_mapa_corrida :
    Along (trasPedido discoDeSeis id) (PedidoGuardado discoDeSeis) (formatearFs discoDeSeis)
        conFlush ∧
      ∀ pre, pre <+: conFlush → MapaGuardado discoDeSeis (trasPedidos discoDeSeis id pre) :=
  ⟨by decide, pedidos_guardados_conservan_mapa discoDeSeis id (by decide)⟩

/-- WRITE_BLOCK on A:1 reserves block 1 and does not save the bitmap. -/
theorem write_block_sin_guardar :
    ¬ MapaGuardado discoDeSeis (trasPedidos discoDeSeis id (nuevoCon a1 120)) := by
  intro saved
  have used := congrFun saved.enDisco 1
  exact absurd used (by decide)

end StorageMapaEnDisco
