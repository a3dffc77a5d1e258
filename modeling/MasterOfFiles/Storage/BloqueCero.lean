import MasterOfFiles.Storage.Tomas

/-!
Block 0 and initial_file:BASE. The search for a free block starts at 1 and a linked block
never has st_nlink 1, so no write ends on block 0. A block that TRUNCATE added reads as
'0' bytes until it is written, unless a COMMIT in between links it to a block that the hash
index names for those bytes and that is free or holds others.
-/
namespace StorageBloqueCero
open StorageEstado StorageArchivos StorageEscritura StorageCommit StoragePrimitivas StoragePasos
open StoragePedidos StorageDeduplicacion StorageAcuerdo StorageMovidas StorageMetadata
open StorageTomas LinkDirectory FirstFit GuardedRuns

variable {Hash : Type} {sb : Superbloque} {s s' : Storage Hash} {f g : FileTag} {c : Carpeta}
  {i j b : Nat}

def ceros (sb : Superbloque) : Bytes := List.replicate sb.tamanioBloque 48

structure BaseIntacta (sb : Superbloque) (s : Storage Hash) : Prop where
  existe : s.existe 0 = true
  datos : s.datos 0 = ceros sb
  enlace : s.destino initialFileBase 0 = some 0
  metadata : ∃ l, s.carpetas.lookup initialFileBase = some ⟨0, .commited, [0], l⟩

/-- Every block that WRITE_BLOCK or FLUSH opens, copies to or writes is another than 0. -/
structure SinDestinoCero (sb : Superbloque) (s : Storage Hash) : Prop where
  reserva : firstFree sb.cantidadBloques s.bitmap ≠ some 0
  copia : ∀ f i actual nuevo s', escrituraDiferenciada sb s f i actual = .hecha nuevo s' →
    nuevo ≠ 0
  enElLugar : ∀ f i b, s.destino f i = some b → s.nlink b ≠ 1
  flush : ∀ f c (paginas : List Pagina), f ≠ initialFileBase → s.carpetas.lookup f = some c →
    ∀ e ∈ (paginas.foldl (prepararPagina sb f c) ⟨s, true, []⟩).pendientes, e.bloqueFinal ≠ 0

theorem firstFree_ne_zero (n : Nat) (used : Nat → Bool) : firstFree n used ≠ some 0 := by
  intro h
  have := (firstFree_some h).1
  omega

theorem sinDestinoCero (sano : Sano sb s) : SinDestinoCero sb s := by
  refine ⟨firstFree_ne_zero _ _, ?_, fun f i b hd => nlink_ne_one sano hd, ?_⟩
  · intro f i actual nuevo s' copy
    have chosen : firstFree sb.cantidadBloques s.bitmap = some nuevo := by
      unfold escrituraDiferenciada at copy
      split at copy
      · contradiction
      · rename_i x hx
        dsimp only at copy
        split at copy
        · contradiction
        split at copy
        · contradiction
        split at copy
        · contradiction
        · cases copy
          exact hx
    rintro rfl
    exact firstFree_ne_zero _ _ chosen
  · intro f c paginas noBase hc e he zero
    have loop := faseToma_paginas noBase paginas (faseToma_inicio sb hc) sano
    have taken := loop.finales e he
    rw [zero] at taken
    exact sin_tomar (.inl rfl) _ taken

theorem baseIntacta (sano : Sano sb s) (zeros : s.datos 0 = ceros sb) : BaseIntacta sb s := by
  have link : s.destino initialFileBase 0 = some 0 :=
    destino_some.mpr ⟨carpetaBase, sano.base, by decide⟩
  exact ⟨sano.fisicos _ _ _ link, zeros, link, carpetaBase.logicos, sano.base⟩

theorem take_ceros (sb : Superbloque) : (ceros sb).take sb.tamanioBloque = ceros sb := by
  simp [ceros]

theorem hash_ceros {md5 : Bytes → Hash}
    (bytes : (s.datos b).take sb.tamanioBloque = ceros sb) :
    hashDeBloque sb md5 s b = md5 (ceros sb) := by
  rw [hashDeBloque, bytes]

variable [DecidableEq Hash]

/-- The disk and the logical blocks added by TRUNCATE (here or in the File:Tag a TAG copied)
    that no WRITE_BLOCK or FLUSH has moved since. -/
structure Historia (Hash : Type) where
  disco : Storage Hash
  sinEscribir : FileTag → Nat → Bool

def sinEscribirTras (sb : Superbloque) (s : Storage Hash) (v : FileTag → Nat → Bool) :
    Pedido → FileTag → Nat → Bool
  | .truncar f tamanio => fun g i =>
    if g = f ∧ (truncarFile sb s f tamanio).1 then
      decide (i < sb.bloquesLogicos tamanio) && (v g i || (s.carpetas.lookup f).any fun c =>
        decide (sb.bloquesLogicos c.tamanio ≤ i))
    else v g i
  | .tag origen destino => fun g i =>
    if g = destino ∧ (tagFile s origen destino).1 then v origen i else v g i
  | .escribir f bloque contenido => fun g i =>
    v g i && !(decide (g = f) && decide (i ∈ escritosPorBloque sb s f bloque contenido))
  | .flush f paginas cantidad => fun g i =>
    v g i && !(decide (g = f) && decide (i ∈ escritosPorFlush sb s f paginas cantidad))
  | .eliminar f => fun g i => v g i && !(decide (g = f) && (eliminarFileTag sb s f).1)
  | .crear _ | .commit _ => v

def trasHistoria (sb : Superbloque) (md5 : Bytes → Hash) (h : Historia Hash) (p : Pedido) :
    Historia Hash :=
  ⟨trasPedido sb md5 h.disco p, sinEscribirTras sb h.disco h.sinEscribir p⟩

def historiaInicial (sb : Superbloque) : Historia Hash := ⟨formatearFs sb, fun _ _ => false⟩

def historia (sb : Superbloque) (md5 : Bytes → Hash) (ps : List Pedido) : Historia Hash :=
  ps.foldl (trasHistoria sb md5) (historiaInicial sb)

theorem disco_historia (sb : Superbloque) (md5 : Bytes → Hash) (ps : List Pedido) :
    (historia sb md5 ps).disco = trasPedidos sb md5 ps := by
  have step : ∀ (ps : List Pedido) (h : Historia Hash),
      (ps.foldl (trasHistoria sb md5) h).disco = ps.foldl (trasPedido sb md5) h.disco := by
    intro ps
    induction ps with
    | nil => intro h; rfl
    | cons p rest ih => intro h; exact ih (trasHistoria sb md5 h p)
  exact step ps (historiaInicial sb)

/-- The logical blocks still linked to block 0 are linked anew only to blocks in use that hold
    the same bytes. -/
def RelinkeoEnCero (sb : Superbloque) (md5 : Bytes → Hash) (s : Storage Hash) (c : Carpeta) :
    Prop :=
  ∀ i < c.blocks.length, ∀ e ∈ relinkeado sb md5 s c i,
    c.blocks[i]? = some 0 ∧ c.logicos.lookup i = some 0 →
      e = 0 ∨ s.bitmap e = true ∧ (s.datos e).take sb.tamanioBloque = ceros sb

instance (sb : Superbloque) (md5 : Bytes → Hash) (s : Storage Hash) (c : Carpeta) :
    Decidable (RelinkeoEnCero sb md5 s c) :=
  inferInstanceAs (Decidable (∀ i < _, ∀ e ∈ _, _ ∧ _ → _ ∨ _ ∧ _))

def CommitEnCero (sb : Superbloque) (md5 : Bytes → Hash) (s : Storage Hash) : Pedido → Prop
  | .commit f => esProtegido f = false → ∀ c ∈ s.carpetas.lookup f, c.estado ≠ .commited →
      RelinkeoEnCero sb md5 s c
  | _ => True

instance (sb : Superbloque) (md5 : Bytes → Hash) (s : Storage Hash) :
    ∀ p, Decidable (CommitEnCero sb md5 s p)
  | .commit _ => inferInstanceAs (Decidable (_ → ∀ c ∈ _, _ → _))
  | .crear _ | .truncar _ _ | .tag _ _ | .escribir _ _ _ | .flush _ _ _ | .eliminar _ =>
    inferInstanceAs (Decidable True)

variable {md5 : Bytes → Hash}

def TieneCeros (sb : Superbloque) (md5 : Bytes → Hash) (s : Storage Hash) (b : Nat) : Prop :=
  b = 0 ∨ s.indice.lookup (md5 (ceros sb)) = some b ∧ s.bitmap b = true ∧
    (s.datos b).take sb.tamanioBloque = ceros sb

def EnCero (sb : Superbloque) (md5 : Bytes → Hash) (s : Storage Hash) (f : FileTag) (i : Nat) :
    Prop :=
  f ≠ initialFileBase ∧ ∃ c b, s.carpetas.lookup f = some c ∧ i < c.blocks.length ∧
    c.logicos.lookup i = some b ∧ (c.blocks[i]? = some 0 ∨ c.blocks[i]? = some b) ∧
    TieneCeros sb md5 s b

theorem tieneCeros_congr (h : TieneCeros sb md5 s b)
    (index : s'.indice.lookup (md5 (ceros sb)) = s.indice.lookup (md5 (ceros sb)))
    (bit : s.bitmap b = true → s'.bitmap b = true)
    (data : s.bitmap b = true → s'.datos b = s.datos b) : TieneCeros sb md5 s' b := by
  rcases h with zero | ⟨known, used, bytes⟩
  · exact .inl zero
  · exact .inr ⟨index.trans known, bit used, by rw [data used]; exact bytes⟩

theorem tieneCeros_disco (h : TieneCeros sb md5 s b) (same : MismoDisco s s') :
    TieneCeros sb md5 s' b :=
  tieneCeros_congr h (by rw [same.indice]) (by rw [same.bitmap]; exact id)
    fun _ => by rw [same.datos]

theorem tieneCeros_reescrita {n : Nat} {escritos : List Nat} (h : TieneCeros sb md5 s b)
    (rewritten : Reescrita sb n escritos f c s s') : TieneCeros sb md5 s' b := by
  rcases rewritten.toma with rfl | ⟨_, _, toma⟩
  · exact h
  · exact tieneCeros_congr h (by rw [toma.indice]) (toma.bits b)
      fun used => toma.datos b (sin_tomar (.inr used) n)

theorem tieneCeros_suelta (h : TieneCeros sb md5 s b) (loose : Suelta s s')
    (hd : s'.destino f i = some b) : TieneCeros sb md5 s' b :=
  tieneCeros_congr h (by rw [loose.indice]) (fun used => (loose.bits b ⟨f, i, hd⟩).trans used)
    fun _ => by rw [loose.datos]

theorem tieneCeros_commit (done : CommitHecho sb md5 s f c s') (h : TieneCeros sb md5 s b) :
    TieneCeros sb md5 s' b := by
  rcases h with zero | ⟨known, used, bytes⟩
  · exact .inl zero
  · have named : ∀ previos, representante sb md5 s previos (md5 (ceros sb)) = some b := by
      intro previos
      simp [representante, known]
    refine .inr ⟨(done.indice _).trans (named c.blocks), (done.bits b).mpr ⟨used, ?_⟩, ?_⟩
    · exact sin_liberar (k := 0) (by rw [hash_ceros bytes]; exact named _)
    · rw [done.datos]
      exact bytes

theorem lista_commit (hi : i < c.blocks.length)
    (old : c.blocks[i]? = some 0 ∨ c.blocks[i]? = some b)
    (new : nuevoBloque sb md5 s c i = 0 ∨ nuevoBloque sb md5 s c i = b) :
    (if modificado sb md5 s c c.blocks.length then
      (List.range c.blocks.length).map (nuevoBloque sb md5 s c) else c.blocks)[i]? = some 0 ∨
    (if modificado sb md5 s c c.blocks.length then
      (List.range c.blocks.length).map (nuevoBloque sb md5 s c) else c.blocks)[i]? = some b := by
  split
  · rw [List.getElem?_map, List.getElem?_range hi]
    simpa using new
  · exact old

theorem nuevoBloque_mismo (ha : c.blocks[i]? = some b)
    (stays : ∀ e, decision sb md5 s c i ≠ .reemplaza e) : nuevoBloque sb md5 s c i = b := by
  unfold nuevoBloque
  split
  · rename_i e he
    exact (stays e he).elim
  · simp [ha]

theorem enCero_commit (done : CommitHecho sb md5 s f c s') (hc : s.carpetas.lookup f = some c)
    (sano : Sano sb s) (zeros : s.datos 0 = ceros sb) (guard : RelinkeoEnCero sb md5 s c)
    (h : EnCero sb md5 s f i) : EnCero sb md5 s' f i := by
  obtain ⟨noBase, c₁, b, hc₁, hi, hl, listed, bytes⟩ := h
  cases hc.symm.trans hc₁
  obtain ⟨l, hl', links⟩ := done.carpeta
  have full : (s.datos b).take sb.tamanioBloque = ceros sb := by
    rcases bytes with rfl | ⟨_, _, bytes⟩
    · rw [zeros, take_ceros]
    · exact bytes
  have len : i < (if modificado sb md5 s c c.blocks.length then
      (List.range c.blocks.length).map (nuevoBloque sb md5 s c) else c.blocks).length := by
    split
    · simpa using hi
    · exact hi
  by_cases linked : b = 0
  · subst linked
    have ha : c.blocks[i]? = some 0 := by simpa using listed
    have ligado_or : ligado sb md5 s c i = (relinkeado sb md5 s c i).or (some 0) := by
      rw [ligado, hl]
    cases hr : decision sb md5 s c i with
    | reemplaza e =>
      have moved : relinkeado sb md5 s c i = some e := by simp [relinkeado, hr]
      refine ⟨noBase, _, e, hl', len, ?_,
        lista_commit hi (.inl ha) (.inr (by simp [nuevoBloque, hr])), ?_⟩
      · rw [links, ligado_or, moved]
        rfl
      · rcases guard i hi e moved ⟨ha, hl⟩ with zero | ⟨used, content⟩
        · exact .inl zero
        · obtain ⟨actual, ha', _, named⟩ := decision_reemplaza hr
          cases ha.symm.trans ha'
          rw [hash_ceros (by rw [zeros, take_ceros])] at named
          refine .inr ⟨?_, (done.bits e).mpr ⟨used, ?_⟩, by rw [done.datos]; exact content⟩
          · rw [done.indice, ← List.take_length (l := c.blocks)]
            exact representante_mono (by omega) named
          · exact sin_liberar (by rw [hash_ceros content]; exact named)
    | conserva | sinLink | restaura =>
      have still : ligado sb md5 s c i = some 0 := by
        rw [ligado_or]
        simp [relinkeado, hr, ha]
      refine ⟨noBase, _, 0, hl', len, (links i).trans still, lista_commit hi (.inl ha) (.inl ?_),
        .inl rfl⟩
      exact nuevoBloque_mismo ha (by simp [hr])
  · obtain ⟨known, used, content⟩ := bytes.resolve_left linked
    have exists_ : s.existe b = true := sano.fisicos f i b (destino_some.mpr ⟨c, hc, hl⟩)
    have after := tieneCeros_commit done (.inr ⟨known, used, content⟩)
    -- whichever entry BLOCKS has, the loop leaves the link on b
    have named : ∀ a, c.blocks[i]? = some a → (s.datos a).take sb.tamanioBloque = ceros sb →
        representante sb md5 s (c.blocks.take i) (hashDeBloque sb md5 s a) = some b := by
      intro a _ ca
      rw [hash_ceros ca]
      simp [representante, known]
    rcases listed with ha | ha
    · have dec : decision sb md5 s c i = .reemplaza b := by
        have zero : s.existe 0 = true := (baseIntacta sano zeros).existe
        simp [decision, ha, decisionDe, zero, named 0 ha (by rw [zeros, take_ceros]), linked, hl,
          exists_]
      refine ⟨noBase, _, b, hl', len, ?_,
        lista_commit hi (.inl ha) (.inr (by simp [nuevoBloque, dec])), after⟩
      rw [links, ligado, relinkeado, dec]
      rfl
    · have dec : decision sb md5 s c i = .conserva := by
        simp [decision, ha, decisionDe, named b ha content]
      refine ⟨noBase, _, b, hl', len, ?_, lista_commit hi (.inr ha) (.inr ?_), after⟩
      · rw [links, ligado, relinkeado, dec, hl]
        rfl
      · exact nuevoBloque_mismo ha (by simp [dec])

structure Invariante (sb : Superbloque) (md5 : Bytes → Hash) (h : Historia Hash) : Prop where
  sano : Sano sb h.disco
  datos : h.disco.datos 0 = ceros sb
  largos : Largos sb h.disco
  virgenes : ∀ f i, h.sinEscribir f i = true → EnCero sb md5 h.disco f i

theorem datos_cero (md5 : Bytes → Hash) (p : Pedido) (sano : Sano sb s) :
    (trasPedido sb md5 s p).datos 0 = s.datos 0 := by
  refine (trasPedido_datos md5 p sano).1 0 fun taken => ?_
  have := (tomables_libres p taken).1
  omega

theorem tieneCeros_trasPedido (p : Pedido) (sano : Sano sb s) (h : TieneCeros sb md5 s b)
    (hd : (trasPedido sb md5 s p).destino g i = some b) :
    TieneCeros sb md5 (trasPedido sb md5 s p) b := by
  have idle : trasPedido sb md5 s p = s → TieneCeros sb md5 (trasPedido sb md5 s p) b := by
    intro same
    rw [same]
    exact h
  cases p with
  | crear f => exact tieneCeros_disco h (crearFile_disco s f)
  | tag origen destino => exact tieneCeros_disco h (tagFile_disco s origen destino)
  | truncar f tamanio => exact tieneCeros_suelta h (truncarFile_suelta sano tamanio) hd
  | escribir f bloque contenido =>
    cases hc : s.carpetas.lookup f with
    | none => exact idle (by simp [trasPedido, atender, escribirBloque, hc])
    | some c =>
      exact tieneCeros_reescrita h (escribirBloque_reescrita sano hc bloque contenido).2
  | flush f paginas cantidad =>
    cases hc : s.carpetas.lookup f with
    | none => exact idle (by simp [trasPedido, atender, flushArchivo, hc])
    | some c => exact tieneCeros_reescrita h (flushArchivo_reescrita sano hc paginas cantidad)
  | commit f =>
    rcases commit_cases sb md5 f sano with ⟨same, _⟩ | ⟨c, _, _, _, done⟩
    · exact idle same
    · exact tieneCeros_commit done h
  | eliminar f => exact tieneCeros_suelta h (eliminarFileTag_suelta sano) hd

theorem enCero_dentro (h : EnCero sb md5 s f i) (hc : s.carpetas.lookup f = some c) :
    i < c.blocks.length := by
  obtain ⟨_, c₁, _, hc₁, hi, _⟩ := h
  cases hc.symm.trans hc₁
  exact hi

theorem enCero_folder {p : Pedido} (sano : Sano sb s) (h : EnCero sb md5 s f i)
    (noBase : g ≠ initialFileBase) (c' : Carpeta)
    (hc' : (trasPedido sb md5 s p).carpetas.lookup g = some c')
    (hi : i < c'.blocks.length)
    (same : ∀ c b, s.carpetas.lookup f = some c → c.logicos.lookup i = some b →
      c'.logicos.lookup i = some b ∧ c'.blocks[i]? = c.blocks[i]?) :
    EnCero sb md5 (trasPedido sb md5 s p) g i := by
  obtain ⟨_, c, b, hc, _, hl, listed, bytes⟩ := h
  obtain ⟨hl', hb'⟩ := same c b hc hl
  refine ⟨noBase, c', b, hc', hi, hl', by rw [hb']; exact listed, ?_⟩
  exact tieneCeros_trasPedido p sano bytes (destino_some.mpr ⟨c', hc', hl'⟩)

theorem enCero_salvo {p : Pedido} {escritos : List Nat} (sano : Sano sb s)
    (h : EnCero sb md5 s f i) (untouched : i ∉ escritos)
    (hc : s.carpetas.lookup f = some c)
    (folder : ∃ c', (trasPedido sb md5 s p).carpetas.lookup f = some c' ∧
      SalvoBloques escritos c c') : EnCero sb md5 (trasPedido sb md5 s p) f i := by
  obtain ⟨c', hc', rest⟩ := folder
  have inside := enCero_dentro h hc
  refine enCero_folder sano h h.1 _ hc' (by rw [rest.largo]; exact inside) ?_
  intro c₁ b hc₁ hl
  cases hc.symm.trans hc₁
  exact ⟨by rw [rest.links i untouched, hl], rest.lista i untouched⟩

theorem enCero_truncar {tamanio : Nat} (sano : Sano sb s) (largos : Largos sb s)
    (hc : s.carpetas.lookup f = some c)
    (old : EnCero sb md5 s f i ∨ (truncarFile sb s f tamanio).1 = true ∧
      sb.bloquesLogicos c.tamanio ≤ i)
    (inside : (truncarFile sb s f tamanio).1 = true → i < sb.bloquesLogicos tamanio) :
    EnCero sb md5 (trasPedido sb md5 s (.truncar f tamanio)) f i := by
  rcases truncarFile_carpeta sb hc tamanio
    with ⟨refused, l, hl, kept⟩ | ⟨accepted, unprotected, l, hl, kept, zeros⟩
  · rcases old with h | ⟨ok, _⟩
    · have small := enCero_dentro h hc
      refine enCero_folder sano h h.1 _ hl small ?_
      intro c₁ b hc₁ hb
      cases hc.symm.trans hc₁
      exact ⟨kept i b hb, rfl⟩
    · rw [refused] at ok
      contradiction
  · have noBase := sin_proteger_ne_inicial unprotected
    have hi := inside accepted
    have len := largos f c noBase hc
    rcases old with h | ⟨_, beyond⟩
    · have small := enCero_dentro h hc
      refine enCero_folder sano h noBase _ hl (by rw [bloquesFinales_length]; exact hi) ?_
      intro c₁ b hc₁ hb
      cases hc.symm.trans hc₁
      exact ⟨kept i hi b hb, by rw [bloquesFinales_get, if_pos hi, if_pos small]⟩
    · refine ⟨noBase, _, 0, hl, by rw [bloquesFinales_length]; exact hi, zeros i beyond hi,
        .inl ?_, .inl rfl⟩
      rw [bloquesFinales_get, if_pos hi, if_neg (by omega)]

theorem enCero_tag {origen : FileTag} (sano : Sano sb s)
    (copied : (tagFile s origen g).1 = true → EnCero sb md5 s origen i)
    (kept : (tagFile s origen g).1 = false → EnCero sb md5 s g i) :
    EnCero sb md5 (trasPedido sb md5 s (.tag origen g)) g i := by
  rcases tagFile_cases s origen g with same | ⟨c, _, ho, hd, made⟩
  · have still : trasPedido sb md5 s (.tag origen g) = s := congrArg Prod.snd same
    rw [still]
    exact kept (by rw [same])
  · have noBase : g ≠ initialFileBase := by
      rintro rfl
      rw [sano.base] at hd
      contradiction
    have virgin := copied (by rw [made])
    have small := enCero_dentro virgin ho
    refine enCero_folder sano virgin noBase { c with estado := .workInProgress } ?_ small ?_
    · rw [trasPedido, atender, made, lookup_ponerCarpeta, if_pos rfl]
    · intro c₁ b hc₁ hb
      cases ho.symm.trans hc₁
      exact ⟨hb, rfl⟩

variable {h : Historia Hash}

theorem enCero_quieto {p : Pedido} (inv : Invariante sb md5 h)
    (same : trasPedido sb md5 h.disco p = h.disco) (v : h.sinEscribir g i = true) :
    EnCero sb md5 (trasPedido sb md5 h.disco p) g i := by
  rw [same]
  exact inv.virgenes g i v

theorem enCero_ajeno {p : Pedido} (inv : Invariante sb md5 h) (otro : g ≠ p.objetivo)
    (v : h.sinEscribir g i = true) : EnCero sb md5 (trasPedido sb md5 h.disco p) g i := by
  have virgin := inv.virgenes g i v
  obtain ⟨noBase, c, b, hc, hi, hl, _⟩ := virgin
  refine enCero_folder inv.sano (inv.virgenes g i v) noBase _
    ((trasPedido_lookup_otro md5 p inv.sano otro).trans hc) hi ?_
  intro c₁ b₁ hc₁ hb₁
  cases hc.symm.trans hc₁
  exact ⟨hb₁, rfl⟩

theorem enCero_crear (inv : Invariante sb md5 h) (v : h.sinEscribir g i = true) :
    EnCero sb md5 (trasPedido sb md5 h.disco (.crear g)) g i := by
  rcases crearFile_cases h.disco g with ⟨_, _, same⟩ | ⟨absent, _⟩
  · exact enCero_quieto inv (congrArg Prod.snd same) v
  · have virgin := inv.virgenes g i v
    obtain ⟨_, c, _, hc, _⟩ := virgin
    rw [absent] at hc
    contradiction

theorem enCero_truncado {tamanio : Nat} (inv : Invariante sb md5 h)
    (unwritten : sinEscribirTras sb h.disco h.sinEscribir (.truncar g tamanio) g i = true) :
    EnCero sb md5 (trasPedido sb md5 h.disco (.truncar g tamanio)) g i := by
  cases hc : h.disco.carpetas.lookup g with
  | none =>
    refine enCero_quieto inv (by simp [trasPedido, atender, truncarFile, hc]) ?_
    simp only [sinEscribirTras, hc, Option.any_none, Bool.or_false] at unwritten
    split at unwritten <;> simp_all
  | some c =>
    simp only [sinEscribirTras, hc, true_and, Option.any_some] at unwritten
    refine enCero_truncar inv.sano inv.largos hc ?_ ?_
    · split at unwritten
      · rename_i accepted
        simp only [Bool.and_eq_true, Bool.or_eq_true, decide_eq_true_eq] at unwritten
        rcases unwritten.2 with v | beyond
        · exact .inl (inv.virgenes g i v)
        · exact .inr ⟨accepted, beyond⟩
      · exact .inl (inv.virgenes g i unwritten)
    · intro accepted
      simp only [accepted, if_true, Bool.and_eq_true, decide_eq_true_eq] at unwritten
      exact unwritten.1

theorem enCero_copiado {origen : FileTag} (inv : Invariante sb md5 h)
    (unwritten : sinEscribirTras sb h.disco h.sinEscribir (.tag origen g) g i = true) :
    EnCero sb md5 (trasPedido sb md5 h.disco (.tag origen g)) g i := by
  simp only [sinEscribirTras, true_and] at unwritten
  refine enCero_tag inv.sano (fun ok => ?_) (fun refused => ?_)
  · rw [if_pos ok] at unwritten
    exact inv.virgenes origen i unwritten
  · rw [if_neg (by simp [refused])] at unwritten
    exact inv.virgenes g i unwritten

theorem enCero_reescrito {p : Pedido} {escritos : List Nat} (inv : Invariante sb md5 h)
    (unwritten : (h.sinEscribir g i && !(decide (g = g) && decide (i ∈ escritos))) = true)
    (rewritten : ∀ c, h.disco.carpetas.lookup g = some c →
      ∃ c', (trasPedido sb md5 h.disco p).carpetas.lookup g = some c' ∧
        SalvoBloques escritos c c') : EnCero sb md5 (trasPedido sb md5 h.disco p) g i := by
  simp only [decide_true, Bool.true_and, Bool.and_eq_true, Bool.not_eq_true',
    decide_eq_false_iff_not] at unwritten
  have virgin := inv.virgenes g i unwritten.1
  obtain ⟨_, c, _, hc, _⟩ := virgin
  exact enCero_salvo inv.sano (inv.virgenes g i unwritten.1) unwritten.2 hc (rewritten c hc)

theorem enCero_eliminado (inv : Invariante sb md5 h)
    (unwritten : sinEscribirTras sb h.disco h.sinEscribir (.eliminar g) g i = true) :
    EnCero sb md5 (trasPedido sb md5 h.disco (.eliminar g)) g i := by
  simp only [sinEscribirTras, decide_true, Bool.true_and, Bool.and_eq_true,
    Bool.not_eq_true'] at unwritten
  rcases eliminarFileTag_cases sb h.disco g with same | ⟨_, _, _, gone⟩
  · exact enCero_quieto inv (congrArg Prod.snd same) unwritten.1
  · rw [gone] at unwritten
    exact Bool.noConfusion unwritten.2

theorem enCero_trasPedido (p : Pedido) (inv : Invariante sb md5 h)
    (guard : CommitEnCero sb md5 h.disco p) (g : FileTag) (i : Nat)
    (unwritten : sinEscribirTras sb h.disco h.sinEscribir p g i = true) :
    EnCero sb md5 (trasPedido sb md5 h.disco p) g i := by
  by_cases target : g = p.objetivo
  swap
  · refine enCero_ajeno inv target ?_
    cases p <;> simp_all [sinEscribirTras, Pedido.objetivo]
  subst target
  cases p with
  | crear f => exact enCero_crear inv unwritten
  | truncar f tamanio => exact enCero_truncado inv unwritten
  | tag origen destino => exact enCero_copiado inv unwritten
  | escribir f bloque contenido =>
    exact enCero_reescrito inv unwritten fun c hc =>
      (escribirBloque_reescrita inv.sano hc bloque contenido).2.carpeta
  | flush f paginas cantidad =>
    exact enCero_reescrito inv unwritten fun c hc =>
      (flushArchivo_reescrita inv.sano hc paginas cantidad).carpeta
  | commit f =>
    rcases commit_cases sb md5 f inv.sano with ⟨same, _⟩ | ⟨c, unprotected, hc, open_, done⟩
    · exact enCero_quieto inv same unwritten
    · exact enCero_commit done hc inv.sano inv.datos (guard unprotected c hc open_)
        (inv.virgenes f i unwritten)
  | eliminar f => exact enCero_eliminado inv unwritten

theorem leerBloque_enCero (zeros : s.datos 0 = ceros sb) (largos : Largos sb s)
    (h : EnCero sb md5 s f i) : leerBloque sb s f i = some (ceros sb) := by
  obtain ⟨noBase, c, b, hc, hi, hl, _, bytes⟩ := h
  have read : (s.datos b).take sb.tamanioBloque = ceros sb := by
    rcases bytes with rfl | ⟨_, _, bytes⟩
    · rw [zeros, take_ceros]
    · exact bytes
  have inside := largos f c noBase hc
  have range : ¬ ((i : Int) < 0 ∨ (sb.bloquesLogicos c.tamanio : Int) ≤ i) := by omega
  simp only [leerBloque, hc, range, Int.toNat_natCast, Nat.not_le.mpr hi, hl, read, if_false]
  simp [ceros]

def AgregadosEnCero (sb : Superbloque) (h : Historia Hash) : Prop :=
  ∀ f i, h.sinEscribir f i = true → leerBloque sb h.disco f i = some (ceros sb)

theorem datos_cero_historia (sb : Superbloque) (md5 : Bytes → Hash) (ps : List Pedido) :
    Sano sb (historia sb md5 ps).disco ∧ (historia sb md5 ps).disco.datos 0 = ceros sb := by
  rw [disco_historia]
  exact invariant_run (fun s => Sano sb s ∧ s.datos 0 = ceros sb)
    (fun s p inv => ⟨sano_trasPedido p inv.1, (datos_cero md5 p inv.1).trans inv.2⟩)
    ⟨sano_formatearFs sb, by simp [formatearFs, ceros]⟩ ps

theorem invariante_historia {ps : List Pedido}
    (safe : Along (trasHistoria sb md5) (fun h p => CommitEnCero sb md5 h.disco p)
      (historiaInicial sb) ps) :
    ∀ pre, pre <+: ps → Invariante sb md5 (historia sb md5 pre) := by
  apply invariant_on_prefixes (Invariante sb md5) _ _ safe
  · intro h p inv guard
    exact ⟨sano_trasPedido p inv.sano, (datos_cero md5 p inv.sano).trans inv.datos,
      largos_trasPedido md5 p inv.sano inv.largos, enCero_trasPedido p inv guard⟩
  · exact ⟨sano_formatearFs sb, by simp [historiaInicial, formatearFs, ceros],
      largos_formatearFs sb, by simp [historiaInicial]⟩

/-- In every state reached block 0 and initial_file:BASE are as formatear_fs left them and no
    write can end on block 0. The blocks TRUNCATE added read as '0' bytes until they are written
    as long as every COMMIT meets CommitEnCero. -/
theorem bloque_cero_inalterado (sb : Superbloque) (md5 : Bytes → Hash) (ps : List Pedido) :
    (∀ pre, pre <+: ps → BaseIntacta sb (historia sb md5 pre).disco ∧
      SinDestinoCero sb (historia sb md5 pre).disco) ∧
    (Along (trasHistoria sb md5) (fun h p => CommitEnCero sb md5 h.disco p) (historiaInicial sb)
        ps →
      ∀ pre, pre <+: ps → AgregadosEnCero sb (historia sb md5 pre)) := by
  constructor
  · intro pre _
    obtain ⟨sano, zeros⟩ := datos_cero_historia sb md5 pre
    exact ⟨baseIntacta sano zeros, sinDestinoCero sano⟩
  · intro safe pre hp f i unwritten
    have inv := invariante_historia safe pre hp
    exact leerBloque_enCero inv.datos inv.largos (inv.virgenes f i unwritten)

/-- A:1 holds '0', is committed and deleted; B:1 takes its block with other contents; C:1 is
    grown and committed without a write. -/
def commitSinEscribir : List Pedido :=
  nuevoCon a1 48 ++ [.commit a1, .eliminar a1] ++ nuevoCon b1 122 ++
    [.crear c1, .truncar c1 1, .commit c1]

theorem commit_cambia_bloque_sin_escribir :
    ¬ AgregadosEnCero discoDeSeis (historia discoDeSeis id commitSinEscribir) := by
  intro all
  have read := all c1 0 (by decide)
  exact absurd read (by decide)

def commitsDeCeros : List Pedido :=
  nuevoCon a1 48 ++ [.commit a1, .crear c1, .truncar c1 2, .commit c1]

theorem bloque_cero_inalterado_corrida :
    ∀ pre, pre <+: commitsDeCeros → AgregadosEnCero discoDeSeis (historia discoDeSeis id pre) :=
  (bloque_cero_inalterado discoDeSeis id commitsDeCeros).2 (by decide)

end StorageBloqueCero
