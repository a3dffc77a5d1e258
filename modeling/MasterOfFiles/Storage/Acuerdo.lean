import MasterOfFiles.Storage.Deduplicacion

/-!
The metadata and the links of a folder agree, and what TRUNCATE and DELETE do to a folder
that does. Both free blocks after looking at the links that are left.
-/
namespace StorageAcuerdo
open StorageEstado StorageArchivos StoragePrimitivas StoragePasos LinkDirectory

variable {Hash : Type}

/-- logical_blocks/<i>.dat exists just for the entries of BLOCKS and is a link of the block
    listed there. -/
def Listado (c : Carpeta) : Prop := ∀ i, c.logicos.lookup i = c.blocks[i]?

def Acorde (sb : Superbloque) (f : FileTag) (c : Carpeta) : Prop :=
  (∀ i, c.logicos.lookup i = c.blocks[i]?) ∧
    (f ≠ initialFileBase → c.blocks.length = sb.bloquesLogicos c.tamanio)

def MetadataAcorde (sb : Superbloque) (s : Storage Hash) : Prop :=
  ∀ f c, s.carpetas.lookup f = some c → Acorde sb f c

/-- A link goes to a block that is marked used and has its file, and every BLOCKS lists what
    the links of its File:Tag go to. -/
structure Coherente (s : Storage Hash) : Prop where
  usados : ∀ f i b, s.destino f i = some b → s.bitmap b = true ∧ s.existe b = true
  listas : ∀ f c, s.carpetas.lookup f = some c → Listado c

/-- Blocks may have been freed: bits only get cleared, and the blocks `quitados` keep their
    bit only while they have a link. -/
structure Liberacion (s : Storage Hash) (quitados : Nat → Prop) (s' : Storage Hash) : Prop where
  datos : s'.datos = s.datos
  indice : s'.indice = s.indice
  existe : ∀ b, s'.existe b = true → s.existe b = true
  bits : ∀ b, s'.bitmap b = true → s.bitmap b = true ∧ (quitados b → s'.Enlazado b)

structure LiberacionExacta (s : Storage Hash) (quitados : Nat → Prop) (s' : Storage Hash) : Prop
    extends Liberacion s quitados s' where
  sueltos : ∀ b, s.bitmap b = true → s'.bitmap b = false → quitados b ∧ ¬ s'.Enlazado b
  borrados : ∀ b, s.existe b = true → s'.existe b = false → ¬ s'.Enlazado b

def Fisicos (s : Storage Hash) : Prop := ∀ f i b, s.destino f i = some b → s.existe b = true

structure ConLinks (s : Storage Hash) (f : FileTag) (c : Carpeta) (l : Dir Nat Nat)
    (s' : Storage Hash) : Prop where
  propia : s'.carpetas.lookup f = some { c with logicos := l }
  otras : ∀ g, g ≠ f → s'.carpetas.lookup g = s.carpetas.lookup g

variable {sb : Superbloque} {s s₁ s' : Storage Hash} {f g : FileTag} {c : Carpeta}
  {i n b : Nat} {l l₁ : Dir Nat Nat} {P Q : Nat → Prop} {bloques : List Nat}

theorem Coherente.fisicos (h : Coherente s) : Fisicos s := fun f i b hd => (h.usados f i b hd).2

theorem destino_listado (h : Listado c) (hc : s.carpetas.lookup f = some c) (i : Nat) :
    s.destino f i = c.blocks[i]? := by
  rw [destino_of_lookup hc, h]

theorem destino_conLinks (h : ConLinks s f c l s') (g : FileTag) (i : Nat) :
    s'.destino g i = if g = f then l.lookup i else s.destino g i := by
  split
  · rename_i hg
    rw [hg, destino_of_lookup h.propia]
  · rename_i hg
    simp only [Storage.destino, h.otras g hg]

theorem conLinks_trans (first : ConLinks s f c l₁ s₁) (second : ConLinks s₁ f c l s') :
    ConLinks s f c l s' :=
  ⟨second.propia, fun g hg => (second.otras g hg).trans (first.otras g hg)⟩

theorem conLinks_ponerCarpeta (s : Storage Hash) (f : FileTag) (c : Carpeta)
    (l : Dir Nat Nat) : ConLinks s f c l (s.ponerCarpeta f { c with logicos := l }) :=
  ⟨by simp [lookup_ponerCarpeta], fun g hg => by simp [lookup_ponerCarpeta, hg]⟩

theorem liberacion_trans (first : Liberacion s P s₁) (second : Liberacion s₁ Q s')
    (stays : ∀ b, P b → s₁.Enlazado b → ¬ Q b → s'.Enlazado b) :
    Liberacion s (fun b => P b ∨ Q b) s' := by
  refine ⟨second.datos.trans first.datos, second.indice.trans first.indice,
    fun b hb => first.existe b (second.existe b hb), ?_⟩
  intro b hb
  obtain ⟨hb₁, hq⟩ := second.bits b hb
  obtain ⟨hb₀, hp⟩ := first.bits b hb₁
  refine ⟨hb₀, ?_⟩
  rintro (p | q)
  · by_cases q : Q b
    · exact hq q
    · exact stays b p (hp p) q
  · exact hq q

theorem liberacion_mono (h : Liberacion s P s') (fewer : ∀ b, Q b → P b) :
    Liberacion s Q s' :=
  ⟨h.datos, h.indice, h.existe, fun b hb =>
    ⟨(h.bits b hb).1, fun q => (h.bits b hb).2 (fewer b q)⟩⟩

theorem exacta_trans (first : LiberacionExacta s P s₁) (second : LiberacionExacta s₁ Q s')
    (stays : ∀ b, P b → s₁.Enlazado b → ¬ Q b → s'.Enlazado b)
    (fewer : ∀ b, s'.Enlazado b → s₁.Enlazado b) :
    LiberacionExacta s (fun b => P b ∨ Q b) s' := by
  refine ⟨liberacion_trans first.toLiberacion second.toLiberacion stays, ?_, ?_⟩
  · intro b used clear
    cases between : s₁.bitmap b with
    | false =>
      obtain ⟨p, free⟩ := first.sueltos b used between
      exact ⟨.inl p, fun linked => free (fewer b linked)⟩
    | true =>
      obtain ⟨q, free⟩ := second.sueltos b between clear
      exact ⟨.inr q, free⟩
  · intro b there gone
    cases between : s₁.existe b with
    | false => exact fun linked => first.borrados b there between (fewer b linked)
    | true => exact second.borrados b between gone

theorem exacta_congr (h : LiberacionExacta s P s') (same : ∀ b, Q b ↔ P b) :
    LiberacionExacta s Q s' := by
  refine ⟨liberacion_mono h.toLiberacion fun b => (same b).mp, fun b used clear => ?_,
    h.borrados⟩
  obtain ⟨p, free⟩ := h.sueltos b used clear
  exact ⟨(same b).mpr p, free⟩

theorem exacta_refl (s : Storage Hash) (none_ : ∀ b, ¬ Q b) : LiberacionExacta s Q s := by
  refine ⟨⟨rfl, rfl, fun _ hb => hb, fun b hb => ⟨hb, fun q => (none_ b q).elim⟩⟩, ?_, ?_⟩
  · intro b used clear
    rw [used] at clear
    contradiction
  · intro b there gone
    rw [there] at gone
    contradiction

theorem enlazarCeros_efecto (n : Nat) : ∀ (i : Nat) (s : Storage Hash) (l : Dir Nat Nat),
    s.carpetas.lookup f = some { c with logicos := l } → s.existe 0 = true →
    (∀ j, i ≤ j → l.lookup j = none) →
    ∃ l', (enlazarCeros f n i s).1 = true ∧ ConLinks s f c l' (enlazarCeros f n i s).2 ∧
      MismoDisco s (enlazarCeros f n i s).2 ∧
      ∀ j, l'.lookup j = if i ≤ j ∧ j < i + n then some 0 else l.lookup j := by
  induction n with
  | zero =>
    intro i s l hl _ _
    refine ⟨l, rfl, ⟨hl, fun _ _ => rfl⟩, ⟨rfl, rfl, rfl, rfl⟩, ?_⟩
    intro j
    rw [if_neg (by omega)]
  | succ n ih =>
    intro i s l hl cero libres
    have step := enlazar_eq_some hl cero (libres i (Nat.le_refl i))
    simp only [enlazarCeros, step]
    obtain ⟨l', ok, links, disk, at_⟩ := ih (i + 1) _ (l.insert i 0)
      (conLinks_ponerCarpeta s f c (l.insert i 0)).propia cero
      (fun j hj => by rw [lookup_insert_ite, if_neg (by omega), libres j (by omega)])
    refine ⟨l', ok, conLinks_trans (conLinks_ponerCarpeta s f c (l.insert i 0)) links,
      ⟨disk.bitmap, disk.existe, disk.datos, disk.indice⟩, ?_⟩
    intro j
    rw [at_, lookup_insert_ite]
    by_cases first : j = i
    · subst first
      rw [if_neg (by omega), if_pos rfl, if_pos (by omega)]
    · simp only [first, ↓reduceIte]
      refine if_congr ?_ rfl rfl
      omega

theorem marcarBloqueLibre_efecto (rango : ∀ x, s.bitmap x = true → x < sb.cantidadBloques)
    (b : Nat) : (s.marcarBloqueLibre sb b).bitmap = Function.update s.bitmap b false ∧
      (s.marcarBloqueLibre sb b).carpetas = s.carpetas ∧
      (s.marcarBloqueLibre sb b).existe = s.existe ∧
      (s.marcarBloqueLibre sb b).datos = s.datos ∧
      (s.marcarBloqueLibre sb b).indice = s.indice := by
  have clear : s.bitmap b = false → s.bitmap = Function.update s.bitmap b false := by
    intro hb
    rw [← hb, Function.update_eq_self]
  unfold Storage.marcarBloqueLibre
  split
  · rename_i beyond
    refine ⟨clear ?_, rfl, rfl, rfl, rfl⟩
    by_contra set
    have := rango b (by simpa using set)
    omega
  · split
    · rename_i free
      exact ⟨clear free, rfl, rfl, rfl, rfl⟩
    · exact ⟨rfl, rfl, rfl, rfl, rfl⟩

theorem quitarBloque_efecto (fisicos : Fisicos s)
    (rango : ∀ x, s.bitmap x = true → x < sb.cantidadBloques)
    (hl : s.carpetas.lookup f = some { c with logicos := l }) (hi : l.lookup i = some b)
    (hb : bloques[i]? = some b) :
    ConLinks s f c (l.erase i) (quitarBloque sb f bloques i s) ∧
      LiberacionExacta s (fun x => x = b) (quitarBloque sb f bloques i s) ∧
      (quitarBloque sb f bloques i s).existe = s.existe := by
  have fisico : bloques.getD i 0 = b := by simp [hb]
  have he : s.existe b = true := fisicos f i b (destino_some.mpr ⟨_, hl, hi⟩)
  unfold quitarBloque
  rw [desenlazar_eq_some hl hi, fisico]
  simp only [Option.getD_some]
  have unlinked := conLinks_ponerCarpeta s f c (l.erase i)
  generalize hs : s.ponerCarpeta f { c with logicos := l.erase i } = s₁ at unlinked ⊢
  subst hs
  split
  · rename_i alone
    have lonely := (nlink_one_of_existe (by exact he)).mp alone.2
    obtain ⟨bits, folders, files, data, index⟩ := marcarBloqueLibre_efecto
      (s := s.ponerCarpeta f { c with logicos := l.erase i }) rango b
    refine ⟨⟨folders ▸ unlinked.propia, folders ▸ unlinked.otras⟩,
      ⟨⟨data, index, fun x hx => files ▸ hx, ?_⟩, ?_, ?_⟩, files⟩
    · intro x hx
      rw [bits, Function.update_apply] at hx
      split at hx
      · contradiction
      · rename_i ne
        exact ⟨hx, fun e => (ne e).elim⟩
    · intro x used clear
      rw [bits, Function.update_apply] at clear
      split at clear
      · rename_i same
        refine ⟨same, ?_⟩
        simp only [Storage.Enlazado, Storage.destino, folders]
        exact same ▸ lonely
      · have still : s.bitmap x = false := clear
        rw [used] at still
        contradiction
    · intro x there gone
      have still : s.existe x = false := files ▸ gone
      rw [there] at still
      contradiction
  · rename_i shared
    refine ⟨unlinked, ⟨⟨rfl, rfl, fun _ hx => hx, ?_⟩, ?_, ?_⟩, rfl⟩
    · intro x hx
      refine ⟨hx, ?_⟩
      rintro rfl
      by_contra lonely
      exact shared ⟨he, (nlink_one_of_existe (by exact he)).mpr lonely⟩
    · intro x used clear
      have still : s.bitmap x = false := clear
      rw [used] at still
      contradiction
    · intro x there gone
      have still : s.existe x = false := gone
      rw [there] at still
      contradiction

theorem enlazado_conLinks {l' : Dir Nat Nat}
    (hl : s.carpetas.lookup f = some { c with logicos := l })
    (links : ConLinks s f c l' s')
    (fewer : ∀ j x, l'.lookup j = some x → l.lookup j = some x) (x : Nat)
    (linked : s'.Enlazado x) : s.Enlazado x := by
  obtain ⟨g, j, hd⟩ := linked
  rw [destino_conLinks links] at hd
  split at hd
  · exact ⟨f, j, destino_some.mpr ⟨_, hl, fewer j x hd⟩⟩
  · exact ⟨g, j, hd⟩

theorem fisicos_conLinks {l' : Dir Nat Nat} (fisicos : Fisicos s)
    (links : ConLinks s f c l' s') (files : s'.existe = s.existe)
    (propios : ∀ j x, l'.lookup j = some x → s.existe x = true) : Fisicos s' := by
  intro g j x hd
  rw [files]
  rw [destino_conLinks links] at hd
  split at hd
  · exact propios j x hd
  · exact fisicos g j x hd

theorem quitarBloques_efecto (desde n : Nat) :
    ∀ (s : Storage Hash) (l : Dir Nat Nat), Fisicos s →
      (∀ x, s.bitmap x = true → x < sb.cantidadBloques) →
      s.carpetas.lookup f = some { c with logicos := l } →
      (∀ j, desde ≤ j → j < desde + n → ∃ b, l.lookup j = some b ∧ bloques[j]? = some b) →
    ∃ l', ConLinks s f c l' (quitarBloques sb f bloques desde n s) ∧
      (∀ j, l'.lookup j = if desde ≤ j ∧ j < desde + n then none else l.lookup j) ∧
      LiberacionExacta s (fun b => ∃ j, desde ≤ j ∧ j < desde + n ∧ bloques[j]? = some b)
        (quitarBloques sb f bloques desde n s) ∧
      (quitarBloques sb f bloques desde n s).existe = s.existe := by
  induction n with
  | zero =>
    intro s l _ _ hl _
    refine ⟨l, ⟨hl, fun _ _ => rfl⟩, fun j => by rw [if_neg (by omega)], ?_, rfl⟩
    exact exacta_refl s fun b ⟨j, _, _, _⟩ => by omega
  | succ n ih =>
    intro s l fisicos rango hl agree
    simp only [quitarBloques]
    obtain ⟨b, hi, hb⟩ := agree (desde + n) (by omega) (by omega)
    obtain ⟨links₁, freed₁, files₁⟩ := quitarBloque_efecto fisicos rango hl hi hb
    have fisicos₁ : Fisicos (quitarBloque sb f bloques (desde + n) s) := by
      refine fisicos_conLinks fisicos links₁ files₁ fun j x hd => ?_
      rw [lookup_erase_ite] at hd
      split at hd
      · contradiction
      · exact fisicos f j x (destino_some.mpr ⟨_, hl, hd⟩)
    obtain ⟨l', links, at_, freed, files⟩ := ih (quitarBloque sb f bloques (desde + n) s)
      (l.erase (desde + n)) fisicos₁ (fun x hx => rango x (freed₁.bits x hx).1) links₁.propia
      (fun j lo hi => by rw [lookup_erase_ite, if_neg (by omega)]; exact agree j lo (by omega))
    refine ⟨l', conLinks_trans links₁ links, ?_, ?_, files.trans files₁⟩
    · intro j
      rw [at_, lookup_erase_ite]
      by_cases last : j = desde + n
      · rw [if_neg (by omega), if_pos last, if_pos (by omega)]
      · simp only [last, ↓reduceIte]
        refine if_congr ?_ rfl rfl
        omega
    · refine exacta_congr (exacta_trans freed₁ freed ?_ ?_) ?_
      · -- the other turns remove a link of x only for a block of their own, which Q lists
        rintro x rfl ⟨g, j, hd⟩ notLater
        refine ⟨g, j, ?_⟩
        rw [destino_conLinks links]
        split
        · rename_i hg
          rw [hg, destino_of_lookup links₁.propia] at hd
          rw [at_, if_neg ?_, hd]
          rintro ⟨lo, hi⟩
          refine notLater ⟨j, lo, hi, ?_⟩
          obtain ⟨y, hy, same⟩ := agree j lo (by omega)
          rw [lookup_erase_ite, if_neg (by omega), hy] at hd
          exact same.trans hd
        · exact hd
      · refine enlazado_conLinks links₁.propia links fun j x hx => ?_
        rw [at_] at hx
        split at hx
        · contradiction
        · exact hx
      · intro x
        constructor
        · rintro ⟨j, lo, hi, hx⟩
          by_cases last : j = desde + n
          · subst last
            exact .inl (Option.some.inj (hx.symm.trans hb))
          · exact .inr ⟨j, lo, by omega, hx⟩
        · rintro (rfl | ⟨j, lo, hi, hx⟩)
          · exact ⟨desde + n, by omega, by omega, hb⟩
          · exact ⟨j, lo, by omega, hx⟩

theorem bloquesFinales_get (bloques : List Nat) (nuevos i : Nat) :
    (bloquesFinales bloques nuevos)[i]? =
      if i < nuevos then (if i < bloques.length then bloques[i]? else some 0) else none := by
  unfold bloquesFinales
  rw [List.getElem?_append, List.getElem?_replicate, List.getElem?_take, List.length_take]
  by_cases kept : i < nuevos
  · by_cases small : i < bloques.length
    · rw [if_pos (by omega), if_pos kept, if_pos kept, if_pos small]
    · rw [if_neg (by omega), if_pos (by omega), if_pos kept, if_neg small]
  · rw [if_neg (by omega), if_neg (by omega), if_neg kept]

theorem bloquesFinales_length (bloques : List Nat) (nuevos : Nat) :
    (bloquesFinales bloques nuevos).length = nuevos := by
  simp only [bloquesFinales, List.length_append, List.length_take, List.length_replicate]
  omega

-- the metadata of a folder has no part in what is linked
theorem enlazado_ponerCarpeta {c' : Carpeta} (hc : s.carpetas.lookup f = some c)
    (same : c'.logicos = c.logicos) (b : Nat) :
    (s.ponerCarpeta f c').Enlazado b ↔ s.Enlazado b := by
  refine exists_congr fun g => exists_congr fun j => ?_
  rw [destino_ponerCarpeta]
  split
  · rename_i hg
    rw [hg, destino_of_lookup hc, same]
  · rfl

theorem truncarFile_efecto (fisicos : Fisicos s)
    (rango : ∀ x, s.bitmap x = true → x < sb.cantidadBloques) (cero : s.existe 0 = true)
    (unprotected : esProtegido f = false)
    (hc : s.carpetas.lookup f = some c) (open_ : c.estado ≠ .commited) (agree : Acorde sb f c)
    (tamanio : Nat) :
    ∃ l, (truncarFile sb s f tamanio).1 = true ∧
      ConLinks s f ⟨tamanio, c.estado, bloquesFinales c.blocks (sb.bloquesLogicos tamanio), l⟩ l
        (truncarFile sb s f tamanio).2 ∧
      (∀ i, l.lookup i = (bloquesFinales c.blocks (sb.bloquesLogicos tamanio))[i]?) ∧
      LiberacionExacta s (fun b => ∃ i, sb.bloquesLogicos tamanio ≤ i ∧ c.blocks[i]? = some b)
        (truncarFile sb s f tamanio).2 := by
  have noBase := sin_proteger_ne_inicial unprotected
  have closed : verificarSiCommited s f = false := by
    simp [verificarSiCommited, hc, open_]
  have len := agree.2 noBase
  have beyond : ∀ j, c.blocks.length ≤ j → c.logicos.lookup j = none := by
    intro j hj
    rw [agree.1, List.getElem?_eq_none hj]
  obtain ⟨l₁, ok, grow, disk, at₁⟩ := enlazarCeros_efecto (f := f) (c := c)
    (sb.bloquesLogicos tamanio - c.blocks.length) c.blocks.length s c.logicos hc cero beyond
  simp only [truncarFile, unprotected, closed, hc, Bool.false_eq_true, Bool.true_eq_false,
    ↓reduceIte, ← len, ok]
  generalize (enlazarCeros f (sb.bloquesLogicos tamanio - c.blocks.length) c.blocks.length s).2
    = s₁ at grow disk ⊢
  have fisicos₁ : Fisicos s₁ := by
    refine fisicos_conLinks fisicos grow disk.existe fun j x hd => ?_
    rw [at₁] at hd
    split at hd
    · cases hd
      exact cero
    · exact fisicos f j x (destino_some.mpr ⟨_, hc, hd⟩)
  have tail : ∀ j, sb.bloquesLogicos tamanio ≤ j →
      j < sb.bloquesLogicos tamanio + (c.blocks.length - sb.bloquesLogicos tamanio) →
      ∃ b, l₁.lookup j = some b ∧ c.blocks[j]? = some b := by
    intro j lo hi
    have inside : j < c.blocks.length := by omega
    refine ⟨c.blocks[j], ?_, List.getElem?_eq_getElem inside⟩
    rw [at₁, if_neg (by omega), agree.1]
    exact List.getElem?_eq_getElem inside
  obtain ⟨l, shrink, at_, freed, files⟩ := quitarBloques_efecto (sb.bloquesLogicos tamanio)
    (c.blocks.length - sb.bloquesLogicos tamanio) s₁ l₁ fisicos₁
    (fun x hx => rango x (disk.bitmap ▸ hx)) grow.propia tail
  generalize quitarBloques sb f c.blocks (sb.bloquesLogicos tamanio)
    (c.blocks.length - sb.bloquesLogicos tamanio) s₁ = s₂ at shrink freed files ⊢
  simp only [guardarTruncado, shrink.propia]
  have linked_iff : ∀ b, (s₂.ponerCarpeta f ⟨tamanio, c.estado,
      bloquesFinales c.blocks (sb.bloquesLogicos tamanio), l⟩).Enlazado b ↔ s₂.Enlazado b :=
    enlazado_ponerCarpeta shrink.propia rfl
  refine ⟨l, trivial, ⟨by simp [lookup_ponerCarpeta], ?_⟩, ?_, ?_⟩
  · intro g hg
    rw [lookup_ponerCarpeta, if_neg hg, shrink.otras g hg, grow.otras g hg]
  · intro i
    rw [at_, at₁, bloquesFinales_get, agree.1]
    by_cases kept : i < sb.bloquesLogicos tamanio
    · by_cases old : i < c.blocks.length
      · rw [if_neg (by omega), if_neg (by omega), if_pos kept, if_pos old]
      · rw [if_neg (by omega), if_pos (by omega), if_pos kept, if_neg old]
    · by_cases old : i < c.blocks.length
      · rw [if_pos (by omega), if_neg kept]
      · rw [if_neg (by omega), if_neg (by omega), if_neg kept, List.getElem?_eq_none (by omega)]
  · refine ⟨⟨freed.datos.trans disk.datos, freed.indice.trans disk.indice,
      fun b hb => disk.existe ▸ freed.existe b hb, ?_⟩, ?_, ?_⟩
    · intro b hb
      obtain ⟨used, out⟩ := freed.bits b hb
      refine ⟨disk.bitmap ▸ used, ?_⟩
      rintro ⟨i, hi, hb⟩
      have inside : i < c.blocks.length := (List.getElem?_eq_some_iff.mp hb).1
      exact (linked_iff b).mpr (out ⟨i, hi, by omega, hb⟩)
    · intro b used clear
      obtain ⟨⟨i, hi, _, hb⟩, free⟩ := freed.sueltos b (disk.bitmap ▸ used) clear
      exact ⟨⟨i, hi, hb⟩, fun linked => free ((linked_iff b).mp linked)⟩
    · intro b there gone linked
      exact freed.borrados b (disk.existe ▸ there) gone ((linked_iff b).mp linked)

theorem desenlazarTodos_efecto (n : Nat) : ∀ (i : Nat) (s : Storage Hash) (l : Dir Nat Nat),
    s.carpetas.lookup f = some { c with logicos := l } →
    ∃ l', ConLinks s f c l' (desenlazarTodos f n i s) ∧
      MismoDisco s (desenlazarTodos f n i s) ∧
      ∀ j, l'.lookup j = if i ≤ j ∧ j < i + n then none else l.lookup j := by
  induction n with
  | zero =>
    intro i s l hl
    exact ⟨l, ⟨hl, fun _ _ => rfl⟩, ⟨rfl, rfl, rfl, rfl⟩, fun j => by rw [if_neg (by omega)]⟩
  | succ n ih =>
    intro i s l hl
    simp only [desenlazarTodos]
    obtain ⟨l₁, links₁, disk₁, at₁⟩ : ∃ l₁, ConLinks s f c l₁ ((s.desenlazar f i).getD s) ∧
        MismoDisco s ((s.desenlazar f i).getD s) ∧
        ∀ j, l₁.lookup j = if j = i then none else l.lookup j := by
      cases hi : l.lookup i with
      | none =>
        have stuck : s.desenlazar f i = none := by
          rw [desenlazar_none, destino_of_lookup hl, hi]
        rw [stuck]
        refine ⟨l, ⟨hl, fun _ _ => rfl⟩, ⟨rfl, rfl, rfl, rfl⟩, fun j => ?_⟩
        split
        · rename_i hj; rw [hj, hi]
        · rfl
      | some x =>
        rw [desenlazar_eq_some hl hi]
        exact ⟨l.erase i, conLinks_ponerCarpeta s f c _, mismoDisco_ponerCarpeta s f _,
          lookup_erase_ite l i⟩
    obtain ⟨l', links, disk, at_⟩ := ih (i + 1) _ l₁ links₁.propia
    refine ⟨l', conLinks_trans links₁ links, ⟨disk.bitmap.trans disk₁.bitmap,
      disk.existe.trans disk₁.existe, disk.datos.trans disk₁.datos,
      disk.indice.trans disk₁.indice⟩, ?_⟩
    intro j
    rw [at_, at₁]
    by_cases first : j = i
    · rw [if_neg (by omega), if_pos first, if_pos (by omega)]
    · simp only [first, ↓reduceIte]
      refine if_congr ?_ rfl rfl
      omega

theorem enlazado_congr (same : s'.carpetas = s.carpetas) (b : Nat) :
    s'.Enlazado b ↔ s.Enlazado b := by
  simp only [Storage.Enlazado, Storage.destino, same]

def Vivo (s : Storage Hash) (b : Nat) : Prop := s.existe b = true ∨ s.bitmap b = false

theorem liberarFisico_efecto (sb : Superbloque) (vivo : Vivo s b) :
    (liberarFisico sb s b).carpetas = s.carpetas ∧
      LiberacionExacta s (fun x => x = b) (liberarFisico sb s b) ∧
      ∀ x, Vivo s x → Vivo (liberarFisico sb s b) x := by
  have unchanged : LiberacionExacta s (fun x => x = b) s ↔
      (s.bitmap b = true → s.Enlazado b) := by
    constructor
    · intro h used
      exact (h.bits b used).2 rfl
    · intro h
      refine ⟨⟨rfl, rfl, fun _ hx => hx, fun x hx => ⟨hx, fun e => e ▸ h (e ▸ hx)⟩⟩, ?_, ?_⟩
      · intro x used clear
        rw [used] at clear
        contradiction
      · intro x there gone
        rw [there] at gone
        contradiction
  unfold liberarFisico
  split
  · rename_i he
    split
    · rename_i few
      refine ⟨rfl, ⟨⟨rfl, rfl, ?_, ?_⟩, ?_, ?_⟩, ?_⟩
      · intro x hx
        simp only [Storage.liberar, Storage.borrarFisico, Function.update_apply] at hx
        split at hx
        · contradiction
        · exact hx
      · intro x hx
        simp only [Storage.liberar, Storage.borrarFisico, Function.update_apply] at hx
        split at hx
        · contradiction
        · rename_i ne
          exact ⟨hx, fun e => (ne e).elim⟩
      · intro x used clear
        simp only [Storage.liberar, Storage.borrarFisico, Function.update_apply] at clear
        split at clear
        · rename_i same
          exact ⟨same, same ▸ (nlink_le_one_of_existe he).mp few⟩
        · rw [used] at clear
          contradiction
      · intro x there gone
        simp only [Storage.liberar, Storage.borrarFisico, Function.update_apply] at gone
        split at gone
        · rename_i same
          exact same ▸ (nlink_le_one_of_existe he).mp few
        · rw [there] at gone
          contradiction
      · intro x hx
        by_cases e : x = b
        · exact .inr (by simp [Storage.liberar, e])
        · simpa [Vivo, Storage.liberar, Storage.borrarFisico, Function.update_of_ne e] using hx
    · rename_i many
      refine ⟨rfl, unchanged.mpr fun _ => ?_, fun _ hx => hx⟩
      by_contra lonely
      exact many ((nlink_le_one_of_existe he).mpr lonely)
  · rename_i missing
    have clear : s.bitmap b = false := vivo.resolve_left missing
    rw [if_neg (by simp [clear])]
    refine ⟨rfl, unchanged.mpr fun used => ?_, fun _ hx => hx⟩
    rw [clear] at used
    contradiction

theorem liberarFisicos_efecto (sb : Superbloque) (bloques : List Nat) : ∀ s : Storage Hash,
    (∀ b ∈ bloques, Vivo s b) →
      (bloques.foldl (liberarFisico sb) s).carpetas = s.carpetas ∧
      LiberacionExacta s (fun b => b ∈ bloques) (bloques.foldl (liberarFisico sb) s) := by
  induction bloques with
  | nil =>
    intro s _
    exact ⟨rfl, exacta_refl s fun b => List.not_mem_nil⟩
  | cons b rest ih =>
    intro s vivos
    obtain ⟨same₁, freed₁, alive⟩ := liberarFisico_efecto sb (vivos b (by simp))
    obtain ⟨same, freed⟩ := ih (liberarFisico sb s b)
      fun x hx => alive x (vivos x (List.mem_cons_of_mem b hx))
    refine ⟨same.trans same₁, exacta_congr (exacta_trans freed₁ freed ?_ ?_) ?_⟩
    · intro x _ linked _
      exact (enlazado_congr same x).mpr linked
    · intro x
      exact (enlazado_congr same x).mp
    · intro x
      exact List.mem_cons

theorem eliminarFileTag_efecto (fisicos : Fisicos s) (unprotected : esProtegido f = false)
    (hc : s.carpetas.lookup f = some c) (listed : Listado c) :
    (eliminarFileTag sb s f).1 = true ∧
      (∀ g, (eliminarFileTag sb s f).2.carpetas.lookup g =
        if g = f then none else s.carpetas.lookup g) ∧
      LiberacionExacta s (fun b => b ∈ c.blocks) (eliminarFileTag sb s f).2 := by
  obtain ⟨l, links, disk, at_⟩ := desenlazarTodos_efecto c.blocks.length 0 s c.logicos hc
  have empty : ∀ j, l.lookup j = none := by
    intro j
    rw [at_]
    split
    · rfl
    · rw [listed]; exact List.getElem?_eq_none (by omega)
  have vivos : ∀ b ∈ c.blocks, Vivo (desenlazarTodos f c.blocks.length 0 s) b := by
    intro b hb
    obtain ⟨i, hi⟩ := List.mem_iff_getElem?.mp hb
    left
    rw [disk.existe]
    exact fisicos f i b ((destino_listado listed hc i).trans hi)
  obtain ⟨same, freed⟩ := liberarFisicos_efecto sb c.blocks _ vivos
  simp only [eliminarFileTag, unprotected, hc, Bool.false_eq_true, ↓reduceIte]
  generalize desenlazarTodos f c.blocks.length 0 s = s₁ at links disk same freed
  generalize c.blocks.foldl (liberarFisico sb) s₁ = s₂ at same freed ⊢
  -- with the links of f gone, removing its folder takes no other
  have linked_iff : ∀ b, (borrarCarpeta s₂.persistirBitmap f).Enlazado b ↔ s₂.Enlazado b := by
    intro b
    refine exists_congr fun g => exists_congr fun j => ?_
    rw [destino_borrarCarpeta]
    split
    · rename_i hg
      have gone : s₂.destino g j = none := by
        have gone₁ : s₁.destino g j = none := by rw [destino_conLinks links, if_pos hg, empty]
        simpa only [Storage.destino, same] using gone₁
      simp [gone]
    · rfl
  refine ⟨trivial, ?_, ⟨freed.datos.trans disk.datos, freed.indice.trans disk.indice,
    fun b hb => disk.existe ▸ freed.existe b hb, ?_⟩, ?_, ?_⟩
  · intro g
    rw [lookup_borrarCarpeta]
    split
    · rfl
    · rename_i hg
      simp only [Storage.persistirBitmap, same]
      exact links.otras g hg
  · intro b hb
    obtain ⟨used, linked⟩ := freed.bits b hb
    exact ⟨disk.bitmap ▸ used, fun hm => (linked_iff b).mpr (linked hm)⟩
  · intro b used clear
    obtain ⟨hm, free⟩ := freed.sueltos b (disk.bitmap ▸ used) clear
    exact ⟨hm, fun linked => free ((linked_iff b).mp linked)⟩
  · intro b there gone linked
    exact freed.borrados b (disk.existe ▸ there) gone ((linked_iff b).mp linked)

end StorageAcuerdo
