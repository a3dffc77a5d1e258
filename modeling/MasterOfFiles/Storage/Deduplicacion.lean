import MasterOfFiles.Storage.Pedidos

/-!
What COMMIT does, said from the state before it. The blocks on disk do not change while
evitar_duplicidad runs, so the fate of each logical block is a function of the folder,
the contents and the hash index the request found.
-/
namespace StorageDeduplicacion
open StorageEstado StorageArchivos StorageEscritura StorageCommit StoragePrimitivas
open StoragePasos StoragePedidos LinkDirectory

variable {Hash : Type} {sb : Superbloque} {s : Storage Hash} {f g : FileTag}
  {c : Carpeta} {i actual : Nat}

theorem liberarOriginal_bitmap (rango : ∀ b, s.bitmap b = true → b < sb.cantidadBloques)
    (actual b : Nat) : (liberarOriginal sb s actual).bitmap b = true ↔
      s.bitmap b = true ∧ b ≠ actual := by
  unfold liberarOriginal
  split
  · simp only [Storage.persistirBitmap, Storage.liberar, Function.update_apply]
    by_cases hb : b = actual <;> simp [hb]
  · rename_i skip
    simp only [Storage.persistirBitmap]
    constructor
    · intro hb
      refine ⟨hb, ?_⟩
      rintro rfl
      exact skip ⟨rango b hb, hb⟩
    · exact fun hb => hb.1

theorem liberarOriginal_resto (sb : Superbloque) (s : Storage Hash) (actual : Nat) :
    (liberarOriginal sb s actual).existe = s.existe ∧
      (liberarOriginal sb s actual).datos = s.datos ∧
      (liberarOriginal sb s actual).carpetas = s.carpetas := by
  unfold liberarOriginal
  split <;> exact ⟨rfl, rfl, rfl⟩

theorem relink_eq {l : Dir Nat Nat} {x destino : Nat}
    (hl : s.carpetas.lookup f = some { c with logicos := l }) (hx : l.lookup i = some x)
    (he : s.existe destino = true) :
    ∃ suelto, s.desenlazar f i = some suelto ∧ suelto.enlazar destino f i =
        some (s.ponerCarpeta f { c with logicos := (l.erase i).insert i destino }) ∧
      ∀ otro, s.existe otro = false → suelto.enlazar otro f i = none := by
  refine ⟨s.ponerCarpeta f { c with logicos := l.erase i }, desenlazar_eq_some hl hx, ?_, ?_⟩
  · rw [enlazar_eq_some (s := s.ponerCarpeta f { c with logicos := l.erase i })
      (c := { c with logicos := l.erase i }) (by simp [lookup_ponerCarpeta]) he
      (AList.lookup_erase i l), ponerCarpeta_ponerCarpeta]
  · intro otro missing
    simp [Storage.enlazar, Storage.ponerCarpeta, missing]

variable [DecidableEq Hash]

/-- The fate of a logical block: kept, kept for lack of a link to replace, linked again to
    its own block because the other one is gone, or moved to an existing block. -/
inductive Decision where
  | conserva
  | sinLink
  | restaura
  | reemplaza (existente : Nat)
  deriving DecidableEq

def Decision.mueve : Decision → Bool
  | .reemplaza _ => true
  | _ => false

/-- The block known for a hash once the blocks `previos` of the file are indexed. -/
def representante (sb : Superbloque) (md5 : Bytes → Hash) (s : Storage Hash)
    (previos : List Nat) (hash : Hash) : Option Nat :=
  (s.indice.lookup hash).or
    (previos.find? fun b => s.existe b && decide (hashDeBloque sb md5 s b = hash))

def decisionDe (sb : Superbloque) (md5 : Bytes → Hash) (s : Storage Hash) (c : Carpeta)
    (i actual : Nat) : Decision :=
  if s.existe actual = false then .conserva
  else match representante sb md5 s (c.blocks.take i) (hashDeBloque sb md5 s actual) with
  | none => .conserva
  | some existente =>
    if existente = actual then .conserva
    else if c.logicos.lookup i = none then .sinLink
    else if s.existe existente = true then .reemplaza existente
    else .restaura

def decision (sb : Superbloque) (md5 : Bytes → Hash) (s : Storage Hash) (c : Carpeta)
    (i : Nat) : Decision :=
  match c.blocks[i]? with
  | none => .conserva
  | some actual => decisionDe sb md5 s c i actual

def relinkeado (sb : Superbloque) (md5 : Bytes → Hash) (s : Storage Hash) (c : Carpeta)
    (i : Nat) : Option Nat :=
  match decision sb md5 s c i with
  | .reemplaza existente => some existente
  | .restaura => c.blocks[i]?
  | _ => none

def ligado (sb : Superbloque) (md5 : Bytes → Hash) (s : Storage Hash) (c : Carpeta)
    (i : Nat) : Option Nat :=
  (relinkeado sb md5 s c i).or (c.logicos.lookup i)

def nuevoBloque (sb : Superbloque) (md5 : Bytes → Hash) (s : Storage Hash) (c : Carpeta)
    (i : Nat) : Nat :=
  match decision sb md5 s c i with
  | .reemplaza existente => existente
  | _ => c.blocks.getD i 0

/-- se_modifico_metadata after the first i blocks. -/
def modificado (sb : Superbloque) (md5 : Bytes → Hash) (s : Storage Hash) (c : Carpeta) :
    Nat → Bool
  | 0 => false
  | i + 1 => match decision sb md5 s c i with
    | .conserva => modificado sb md5 s c i
    | .restaura => false
    | _ => true

def Liberado (sb : Superbloque) (md5 : Bytes → Hash) (s : Storage Hash) (c : Carpeta)
    (i b : Nat) : Prop :=
  ∃ j < i, (decision sb md5 s c j).mueve = true ∧ c.blocks[j]? = some b

instance (sb : Superbloque) (md5 : Bytes → Hash) (s : Storage Hash) (c : Carpeta) (i b : Nat) :
    Decidable (Liberado sb md5 s c i b) :=
  inferInstanceAs (Decidable (∃ j < i, _ ∧ _))

variable {md5 : Bytes → Hash} {d d' : Dedup Hash}

theorem representante_append (previos : List Nat) (actual : Nat) (hash : Hash) :
    representante sb md5 s (previos ++ [actual]) hash =
      (representante sb md5 s previos hash).or
        (if s.existe actual = true ∧ hashDeBloque sb md5 s actual = hash then some actual
          else none) := by
  have last : [actual].find? (fun b => s.existe b && decide (hashDeBloque sb md5 s b = hash)) =
      if s.existe actual = true ∧ hashDeBloque sb md5 s actual = hash then some actual
      else none := by
    simp only [List.find?_singleton, Bool.and_eq_true, decide_eq_true_eq]
  simp only [representante, List.find?_append, last, Option.or_assoc]

theorem take_succ_of_get (ha : c.blocks[i]? = some actual) :
    c.blocks.take (i + 1) = c.blocks.take i ++ [actual] := by
  simp [List.take_add_one, ha]

theorem liberado_succ (ha : c.blocks[i]? = some actual) (b : Nat) :
    Liberado sb md5 s c (i + 1) b ↔ Liberado sb md5 s c i b ∨
      (decision sb md5 s c i).mueve = true ∧ b = actual := by
  constructor
  · rintro ⟨j, hj, hd, hb⟩
    rcases Nat.lt_succ_iff_lt_or_eq.mp hj with lt | rfl
    · exact .inl ⟨j, lt, hd, hb⟩
    · exact .inr ⟨hd, Option.some.inj (hb.symm.trans ha)⟩
  · rintro (⟨j, hj, hd, hb⟩ | ⟨hd, rfl⟩)
    · exact ⟨j, by omega, hd, hb⟩
    · exact ⟨i, by omega, hd, ha⟩

/-- What the loop has done when it reaches logical block i. -/
structure Avance (sb : Superbloque) (md5 : Bytes → Hash) (s : Storage Hash) (f : FileTag)
    (c : Carpeta) (i : Nat) (d : Dedup Hash) : Prop where
  existe : d.storage.existe = s.existe
  datos : d.storage.datos = s.datos
  otros : ∀ g, g ≠ f → d.storage.carpetas.lookup g = s.carpetas.lookup g
  carpeta : ∃ l, d.storage.carpetas.lookup f = some { c with logicos := l } ∧
    ∀ j, l.lookup j = if j < i then ligado sb md5 s c j else c.logicos.lookup j
  bits : ∀ b, d.storage.bitmap b = true ↔
    s.bitmap b = true ∧ ¬ Liberado sb md5 s c i b
  indice : ∀ h, d.indice.lookup h = representante sb md5 s (c.blocks.take i) h
  nuevos : d.nuevos = (List.range i).map (nuevoBloque sb md5 s c)
  modificado : d.seModifico = modificado sb md5 s c i

theorem avance_inicio (sb : Superbloque) (md5 : Bytes → Hash) (hc : s.carpetas.lookup f = some c) :
    Avance sb md5 s f c 0 ⟨s, s.indice, [], false⟩ := by
  refine ⟨rfl, rfl, fun _ _ => rfl, ⟨c.logicos, hc, by simp⟩, ?_, ?_, rfl, rfl⟩
  · simp [Liberado]
  · simp [representante]

theorem avance_keep (h : Avance sb md5 s f c i d) (ha : c.blocks[i]? = some actual)
    (stays : ligado sb md5 s c i = c.logicos.lookup i)
    (noMove : (decision sb md5 s c i).mueve = false)
    (storage : d'.storage = d.storage)
    (indice : ∀ h, d'.indice.lookup h = representante sb md5 s (c.blocks.take (i + 1)) h)
    (nuevos : d'.nuevos = d.nuevos ++ [actual])
    (flag : d'.seModifico = StorageDeduplicacion.modificado sb md5 s c (i + 1)) :
    Avance sb md5 s f c (i + 1) d' := by
  obtain ⟨l, hl, links⟩ := h.carpeta
  refine ⟨storage ▸ h.existe, storage ▸ h.datos, storage ▸ h.otros, ⟨l, storage ▸ hl, ?_⟩, ?_,
    indice, ?_, flag⟩
  · intro j
    rw [links j]
    by_cases hj : j = i
    · subst hj; simp [stays]
    · have : j < i + 1 ↔ j < i := by omega
      simp only [this]
  · intro b
    rw [storage, h.bits b, liberado_succ ha]
    simp [noMove]
  · have entry : nuevoBloque sb md5 s c i = actual := by
      unfold nuevoBloque
      split
      · rename_i e he; simp [he, Decision.mueve] at noMove
      · simp [ha]
    rw [nuevos, h.nuevos, List.range_succ, List.map_append, List.map_singleton, entry]

theorem avance_relink (h : Avance sb md5 s f c i d) (ha : c.blocks[i]? = some actual)
    {l : Dir Nat Nat} {destino : Nat}
    (links : ∀ j, l.lookup j = if j < i then ligado sb md5 s c j else c.logicos.lookup j)
    (goal : ligado sb md5 s c i = some destino)
    (existe : d'.storage.existe = d.storage.existe) (datos : d'.storage.datos = d.storage.datos)
    (carpetas : d'.storage.carpetas = d.storage.carpetas.insert f
      { c with logicos := (l.erase i).insert i destino })
    (bits : ∀ b, d'.storage.bitmap b = true ↔ d.storage.bitmap b = true ∧
      ¬ ((decision sb md5 s c i).mueve = true ∧ b = actual))
    (indice : ∀ h, d'.indice.lookup h = representante sb md5 s (c.blocks.take (i + 1)) h)
    (nuevos : d'.nuevos = d.nuevos ++ [nuevoBloque sb md5 s c i])
    (flag : d'.seModifico = modificado sb md5 s c (i + 1)) :
    Avance sb md5 s f c (i + 1) d' := by
  refine ⟨existe.trans h.existe, datos.trans h.datos, ?_, ⟨(l.erase i).insert i destino, ?_, ?_⟩,
    ?_, indice, ?_, flag⟩
  · intro g hg
    rw [carpetas, lookup_insert_ite, if_neg hg, h.otros g hg]
  · rw [carpetas, lookup_insert_ite, if_pos rfl]
  · intro j
    rw [lookup_insert_ite, lookup_erase_ite, links]
    by_cases hj : j = i
    · subst hj; simp [goal]
    · have : j < i + 1 ↔ j < i := by omega
      simp only [hj, this, ↓reduceIte]
  · intro b
    rw [bits, h.bits, liberado_succ ha, and_assoc, not_or]
  · rw [nuevos, h.nuevos, List.range_succ, List.map_append, List.map_singleton]

theorem representante_siguiente (h : Avance sb md5 s f c i d) (ha : c.blocks[i]? = some actual)
    (k : Hash) : representante sb md5 s (c.blocks.take (i + 1)) k = (d.indice.lookup k).or
      (if s.existe actual = true ∧ hashDeBloque sb md5 s actual = k
        then some actual else none) := by
  rw [take_succ_of_get ha, representante_append, h.indice]

-- a turn whose hash is already indexed leaves the index as it was
theorem indice_conocido (h : Avance sb md5 s f c i d) (ha : c.blocks[i]? = some actual)
    {existente : Nat}
    (hr : representante sb md5 s (c.blocks.take i) (hashDeBloque sb md5 s actual) = some existente)
    (k : Hash) : d.indice.lookup k = representante sb md5 s (c.blocks.take (i + 1)) k := by
  rw [representante_siguiente h ha]
  by_cases hk : hashDeBloque sb md5 s actual = k
  · subst hk
    simp [h.indice, hr]
  · simp [hk]

theorem avance_reemplaza (rango : ∀ b, s.bitmap b = true → b < sb.cantidadBloques)
    (h : Avance sb md5 s f c i d) (ha : c.blocks[i]? = some actual) {existente : Nat}
    {l : Dir Nat Nat} (dec : decision sb md5 s c i = .reemplaza existente)
    (links : ∀ j, l.lookup j = if j < i then ligado sb md5 s c j else c.logicos.lookup j)
    (index : ∀ k, d.indice.lookup k = representante sb md5 s (c.blocks.take (i + 1)) k) :
    Avance sb md5 s f c (i + 1)
      { d with
        storage := liberarOriginal sb
          (d.storage.ponerCarpeta f { c with logicos := (l.erase i).insert i existente }) actual,
        nuevos := d.nuevos ++ [existente], seModifico := true } := by
  have inRange : ∀ b, (d.storage.ponerCarpeta f
      { c with logicos := (l.erase i).insert i existente }).bitmap b = true →
        b < sb.cantidadBloques := fun b hb => rango b ((h.bits b).mp hb).1
  obtain ⟨re, rd, rc⟩ := liberarOriginal_resto sb
    (d.storage.ponerCarpeta f { c with logicos := (l.erase i).insert i existente }) actual
  refine avance_relink h ha links (by simp [ligado, relinkeado, dec]) re rd rc ?_ index
    (by simp [nuevoBloque, dec]) (by simp [modificado, dec])
  intro b
  refine (liberarOriginal_bitmap inRange actual b).trans ?_
  simp [dec, Decision.mueve, Storage.ponerCarpeta]

theorem deduplicarBloque_avance (rango : ∀ b, s.bitmap b = true → b < sb.cantidadBloques)
    (h : Avance sb md5 s f c i d) (ha : c.blocks[i]? = some actual) :
    Avance sb md5 s f c (i + 1) (deduplicarBloque sb md5 f d i actual) := by
  have atI : decision sb md5 s c i = decisionDe sb md5 s c i actual := by simp [decision, ha]
  have same : hashDeBloque sb md5 d.storage actual = hashDeBloque sb md5 s actual := by
    simp only [hashDeBloque, h.datos]
  have known := h.indice (hashDeBloque sb md5 s actual)
  have next := representante_siguiente h ha
  unfold deduplicarBloque
  rw [h.existe, same]
  dsimp only
  cases he : s.existe actual with
  | false =>
    have dec : decision sb md5 s c i = .conserva := by rw [atI]; simp [decisionDe, he]
    refine avance_keep h ha (by simp [ligado, relinkeado, dec]) (by simp [dec, Decision.mueve])
      rfl ?_ rfl ?_
    · intro k; simp [next, he]
    · simp [modificado, dec, h.modificado]
  | true =>
    simp only [Bool.true_eq_false, ↓reduceIte]
    cases hr : representante sb md5 s (c.blocks.take i) (hashDeBloque sb md5 s actual) with
    | none =>
      have dec : decision sb md5 s c i = .conserva := by rw [atI]; simp [decisionDe, he, hr]
      simp only [known, hr]
      refine avance_keep h ha (by simp [ligado, relinkeado, dec]) (by simp [dec, Decision.mueve])
        rfl ?_ rfl ?_
      · intro k
        simp only [next, he, true_and, lookup_insert_ite]
        by_cases hk : k = hashDeBloque sb md5 s actual
        · subst hk; simp [known, hr]
        · simp [hk, Ne.symm hk]
      · simp [modificado, dec, h.modificado]
    | some existente =>
      have index := indice_conocido h ha hr
      simp only [known, hr]
      by_cases heq : existente = actual
      · have dec : decision sb md5 s c i = .conserva := by
          rw [atI]; simp [decisionDe, he, hr, heq]
        simp only [heq, ↓reduceIte]
        exact avance_keep h ha (by simp [ligado, relinkeado, dec])
          (by simp [dec, Decision.mueve]) rfl index rfl (by simp [modificado, dec, h.modificado])
      simp only [heq, ↓reduceIte]
      obtain ⟨l, hl, links⟩ := h.carpeta
      have here : l.lookup i = c.logicos.lookup i := by simp [links]
      cases hk : c.logicos.lookup i with
      | none =>
        have dec : decision sb md5 s c i = .sinLink := by
          rw [atI]; simp [decisionDe, he, hr, heq, hk]
        have stuck : d.storage.desenlazar f i = none := by
          rw [desenlazar_none, destino_of_lookup hl, here, hk]
        rw [stuck]
        exact avance_keep h ha (by simp [ligado, relinkeado, dec])
          (by simp [dec, Decision.mueve]) rfl index rfl (by simp [modificado, dec])
      | some x =>
        cases hex : s.existe existente with
        | false =>
          have dec : decision sb md5 s c i = .restaura := by
            rw [atI]; simp [decisionDe, he, hr, heq, hk, hex]
          obtain ⟨suelto, out, back, fails⟩ := relink_eq hl (here.trans hk) (h.existe ▸ he)
          simp only [out, fails existente (h.existe ▸ hex), back, Option.getD_some]
          exact avance_relink h ha links (by simp [ligado, relinkeado, dec, ha]) rfl rfl rfl
            (by simp [dec, Decision.mueve, Storage.ponerCarpeta])
            index (by simp [nuevoBloque, dec, ha]) (by simp [modificado, dec])
        | true =>
          have dec : decision sb md5 s c i = .reemplaza existente := by
            rw [atI]; simp [decisionDe, he, hr, heq, hk, hex]
          obtain ⟨suelto, out, back, _⟩ := relink_eq hl (here.trans hk) (h.existe ▸ hex)
          simp only [out, back]
          exact avance_reemplaza rango h ha dec links index

theorem deduplicarDesde_avance (rango : ∀ b, s.bitmap b = true → b < sb.cantidadBloques)
    (resto : List Nat) : ∀ (i : Nat) (d : Dedup Hash), c.blocks.drop i = resto →
      i ≤ c.blocks.length → Avance sb md5 s f c i d →
      Avance sb md5 s f c c.blocks.length (deduplicarDesde sb md5 f i resto d) := by
  induction resto with
  | nil =>
    intro i d hd hi h
    have done : i = c.blocks.length := by
      have := List.drop_eq_nil_iff.mp hd
      omega
    exact done ▸ h
  | cons actual resto ih =>
    intro i d hd hi h
    have ha : c.blocks[i]? = some actual := by
      have := congrArg List.head? hd
      simpa [List.head?_drop] using this
    have lt : i < c.blocks.length := by
      obtain ⟨hi, _⟩ := List.getElem?_eq_some_iff.mp ha
      exact hi
    have rest : c.blocks.drop (i + 1) = resto := by
      have := congrArg List.tail hd
      simpa [List.tail_drop] using this
    exact ih (i + 1) _ rest lt (deduplicarBloque_avance rango h ha)

structure CommitHecho (sb : Superbloque) (md5 : Bytes → Hash) (s : Storage Hash) (f : FileTag)
    (c : Carpeta) (s' : Storage Hash) : Prop where
  existe : s'.existe = s.existe
  datos : s'.datos = s.datos
  otros : ∀ g, g ≠ f → s'.carpetas.lookup g = s.carpetas.lookup g
  carpeta : ∃ l, s'.carpetas.lookup f = some ⟨c.tamanio, .commited,
      if modificado sb md5 s c c.blocks.length then
        (List.range c.blocks.length).map (nuevoBloque sb md5 s c) else c.blocks, l⟩ ∧
    ∀ j, l.lookup j = ligado sb md5 s c j
  bits : ∀ b, s'.bitmap b = true ↔
    s.bitmap b = true ∧ ¬ Liberado sb md5 s c c.blocks.length b
  indice : ∀ h, s'.indice.lookup h = representante sb md5 s c.blocks h

theorem ligado_fuera (hi : c.blocks.length ≤ i) :
    ligado sb md5 s c i = c.logicos.lookup i := by
  simp [ligado, relinkeado, decision, List.getElem?_eq_none hi]

theorem realizarCommit_hecho (md5 : Bytes → Hash)
    (rango : ∀ b, s.bitmap b = true → b < sb.cantidadBloques)
    (unprotected : esProtegido f = false) (hc : s.carpetas.lookup f = some c)
    (open_ : c.estado ≠ .commited) :
    (realizarCommit sb md5 s f).1 = true ∧
      CommitHecho sb md5 s f c (realizarCommit sb md5 s f).2 := by
  have run := deduplicarDesde_avance rango c.blocks 0 _ List.drop_zero (Nat.zero_le _)
    (avance_inicio sb md5 hc)
  simp only [realizarCommit, unprotected, hc, open_, Bool.false_eq_true, ↓reduceIte]
  refine ⟨trivial, ?_⟩
  simp only [evitarDuplicidad, hc]
  generalize deduplicarDesde sb md5 f 0 c.blocks ⟨s, s.indice, [], false⟩ = d at run
  obtain ⟨l, hl, links⟩ := run.carpeta
  have last : ∀ j, l.lookup j = ligado sb md5 s c j := by
    intro j
    rw [links j]
    split
    · rfl
    · rename_i hj; exact (ligado_fuera (Nat.le_of_not_lt hj)).symm
  have indice : ∀ h, d.indice.lookup h = representante sb md5 s c.blocks h := by
    intro h
    rw [run.indice h, List.take_length]
  cases flag : modificado sb md5 s c c.blocks.length with
  | false =>
    simp only [run.modificado, flag, Bool.false_eq_true, ↓reduceIte, guardarCommit, hl]
    refine ⟨run.existe, run.datos, ?_, ⟨l, ?_, last⟩, run.bits, indice⟩
    · intro g hg
      exact (lookup_ponerCarpeta _ f g _).trans ((if_neg hg).trans (run.otros g hg))
    · exact (lookup_ponerCarpeta _ f f _).trans (by simp [flag])
  | true =>
    simp only [run.modificado, flag, ↓reduceIte, guardarBlocks, guardarCommit, hl,
      lookup_ponerCarpeta]
    refine ⟨run.existe, run.datos, ?_, ⟨l, ?_, last⟩, run.bits, indice⟩
    · intro g hg
      exact (lookup_ponerCarpeta _ f g _).trans
        ((if_neg hg).trans ((lookup_ponerCarpeta _ f g _).trans ((if_neg hg).trans (run.otros g hg))))
    · exact (lookup_ponerCarpeta _ f f _).trans (by simp [flag, run.nuevos])

theorem decision_link (h : decision sb md5 s c i ≠ .conserva) :
    ∃ actual existente, c.blocks[i]? = some actual ∧ s.existe actual = true ∧
      representante sb md5 s (c.blocks.take i) (hashDeBloque sb md5 s actual) = some existente ∧
      existente ≠ actual ∧ decision sb md5 s c i =
        if c.logicos.lookup i = none then .sinLink
        else if s.existe existente = true then .reemplaza existente else .restaura := by
  cases ha : c.blocks[i]? with
  | none => exact (h (by simp [decision, ha])).elim
  | some actual =>
    have dec : decision sb md5 s c i = decisionDe sb md5 s c i actual := by simp [decision, ha]
    rw [dec] at h ⊢
    unfold decisionDe at h ⊢
    split at h
    · contradiction
    rename_i he
    split at h
    · contradiction
    rename_i existente hr
    split at h
    · contradiction
    rename_i ne
    refine ⟨actual, existente, rfl, by simpa using he, hr, ne, ?_⟩
    rw [if_neg he]
    simp only [ne, ↓reduceIte]

theorem decision_reemplaza {e : Nat} (dec : decision sb md5 s c i = .reemplaza e) :
    ∃ actual, c.blocks[i]? = some actual ∧ s.existe e = true ∧
      representante sb md5 s (c.blocks.take i) (hashDeBloque sb md5 s actual) = some e := by
  have moves : decision sb md5 s c i ≠ .conserva := by
    rw [dec]
    exact Decision.noConfusion
  obtain ⟨actual, existente, ha, _, hr, _, shape⟩ := decision_link moves
  rw [dec] at shape
  split at shape
  · contradiction
  · split at shape
    · rename_i he
      cases shape
      exact ⟨actual, ha, he, hr⟩
    · contradiction

theorem representante_mono {previos : List Nat} {n m : Nat} {hash : Hash} (less : n ≤ m)
    (h : representante sb md5 s (previos.take n) hash = some b) :
    representante sb md5 s (previos.take m) hash = some b := by
  obtain ⟨rest, split⟩ := List.take_prefix_take_left (l := previos) less
  rw [← split]
  unfold representante at h ⊢
  rw [List.find?_append]
  cases known : s.indice.lookup hash with
  | some x => rw [known] at h; exact h
  | none =>
    rw [known, Option.none_or] at h
    rw [h]
    rfl

theorem sin_liberar {n k : Nat}
    (known : representante sb md5 s (c.blocks.take k) (hashDeBloque sb md5 s b) = some b) :
    ¬ Liberado sb md5 s c n b := by
  rintro ⟨j, _, moves, hb⟩
  have changes : decision sb md5 s c j ≠ .conserva := by
    intro stays
    rw [stays] at moves
    contradiction
  obtain ⟨actual, existente, ha, _, hr, ne, _⟩ := decision_link changes
  cases hb.symm.trans ha
  rcases Nat.le_total j k with le | le
  · exact ne (Option.some.inj ((representante_mono le hr).symm.trans known))
  · exact ne (Option.some.inj (hr.symm.trans (representante_mono le known)))

theorem relinkeado_existe {b : Nat} (h : relinkeado sb md5 s c i = some b) :
    s.existe b = true := by
  have moves : decision sb md5 s c i ≠ .conserva := by
    intro stays
    simp [relinkeado, stays] at h
  obtain ⟨actual, existente, ha, he, _, _, dec⟩ := decision_link moves
  unfold relinkeado at h
  rw [dec] at h
  by_cases hl : c.logicos.lookup i = none
  · simp [hl] at h
  · cases hex : s.existe existente with
    | true => simp [hl, hex] at h; exact h ▸ hex
    | false => simp [hl, hex, ha] at h; exact h ▸ he

theorem relinkeado_lt {i b : Nat} (h : relinkeado sb md5 s c i = some b) :
    i < c.blocks.length := by
  by_contra beyond
  have out : c.blocks[i]? = none := List.getElem?_eq_none (Nat.le_of_not_lt beyond)
  simp [relinkeado, decision, out] at h

theorem destino_commit (h : CommitHecho sb md5 s f c s') (hc : s.carpetas.lookup f = some c)
    (g : FileTag) (i : Nat) :
    s'.destino g i = if g = f then (relinkeado sb md5 s c i).or (s.destino g i)
      else s.destino g i := by
  obtain ⟨l, hl, links⟩ := h.carpeta
  by_cases hg : g = f
  · subst hg
    simp only [↓reduceIte, destino_of_lookup hl, destino_of_lookup hc, links, ligado]
  · simp only [hg, ↓reduceIte, Storage.destino, h.otros g hg]

theorem sano_commit (h : CommitHecho sb md5 s f c s') (hc : s.carpetas.lookup f = some c)
    (sano : Sano sb s) (noBase : f ≠ initialFileBase) : Sano sb s' := by
  refine ⟨?_, ?_, ?_⟩
  · intro g i b hd'
    rw [destino_commit h hc] at hd'
    rw [h.existe]
    split at hd'
    · cases hr : relinkeado sb md5 s c i with
      | none => exact sano.fisicos g i b (by simpa [hr] using hd')
      | some b' =>
        have same : b' = b := by simpa [hr] using hd'
        subst same
        exact relinkeado_existe hr
    · exact sano.fisicos g i b hd'
  · intro b hb
    exact sano.rango b ((h.bits b).mp hb).1
  · rw [h.otros _ (Ne.symm noBase)]
    exact sano.base

theorem commit_cases (sb : Superbloque) (md5 : Bytes → Hash) (f : FileTag) (sano : Sano sb s) :
    (trasPedido sb md5 s (.commit f) = s ∧ ∀ c ∈ s.carpetas.lookup f,
        ¬ (esProtegido f = false ∧ c.estado ≠ .commited)) ∨
      ∃ c, esProtegido f = false ∧ s.carpetas.lookup f = some c ∧ c.estado ≠ .commited ∧
        CommitHecho sb md5 s f c (trasPedido sb md5 s (.commit f)) := by
  cases hp : esProtegido f with
  | true => exact .inl ⟨by simp [trasPedido, atender, realizarCommit, hp], by simp⟩
  | false =>
    cases hc : s.carpetas.lookup f with
    | none => exact .inl ⟨by simp [trasPedido, atender, realizarCommit, hp, hc], by simp⟩
    | some c =>
      by_cases open_ : c.estado = .commited
      · exact .inl ⟨by simp [trasPedido, atender, realizarCommit, hp, hc, open_], by simp [open_]⟩
      · exact .inr ⟨c, rfl, rfl, open_, (realizarCommit_hecho md5 sano.rango hp hc open_).2⟩

theorem sano_trasPedido (p : Pedido) (sano : Sano sb s) : Sano sb (trasPedido sb md5 s p) := by
  by_cases onBase : p.objetivo = initialFileBase
  · rw [trasPedido_base sano onBase]
    exact sano
  by_cases isCommit : ∃ f, p = .commit f
  · obtain ⟨f, rfl⟩ := isCommit
    rcases commit_cases sb md5 f sano with ⟨same, _⟩ | ⟨c, _, hc, _, done⟩
    · rw [same]; exact sano
    · exact sano_commit done hc sano onBase
  · exact sano_primitivas (trasPedido_pasos (apta_debil sano) fun f hf => isCommit ⟨f, hf⟩) sano onBase

theorem sano_trasPedidos (sb : Superbloque) (md5 : Bytes → Hash) (ps : List Pedido) :
    Sano sb (trasPedidos sb md5 ps) :=
  GuardedRuns.invariant_run (Sano sb) (fun _ p sano => sano_trasPedido p sano)
    (sano_formatearFs sb) ps

end StorageDeduplicacion
