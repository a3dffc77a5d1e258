import Mathlib.Data.Prod.Lex
import MasterOfFiles.Storage.Cerrojos

/-!
What the text of an operation says of its own mutexes: which pointers it has, for which keys,
and what it holds. A list of steps is checked once against that account, with an order that
each lock has to respect; the account then agrees with the mutexes along every run.
-/
namespace StorageDisciplina
open StorageEstado StorageCerrojos

/-- File mutexes by key, then mutex_hash_index, mutex_bitmap and mutex_dict_locks. -/
abbrev Rango := Nat ×ₗ String

structure Cuenta where
  claves : Puntero → Option String
  tomados : List Cerrojo

def sinNada : Cuenta := ⟨fun _ => none, []⟩

def Cuenta.rango (c : Cuenta) : Cerrojo → Rango
  | .archivo p => toLex (0, (c.claves p).getD "")
  | .hashIndex => toLex (1, "")
  | .bitmap => toLex (2, "")
  | .dictLocks => toLex (3, "")

def Cuenta.tomar (c : Cuenta) (x : Cerrojo) : Cuenta := { c with tomados := x :: c.tomados }

def Cuenta.soltar (c : Cuenta) : Cerrojo → Cuenta
  | .archivo p => ⟨Function.update c.claves p none, c.tomados.erase (.archivo p)⟩
  | x => { c with tomados := c.tomados.erase x }

def Cuenta.apuntar (c : Cuenta) (p : Puntero) (clave : String) : Cuenta :=
  { c with claves := Function.update c.claves p (some clave) }

def Cuenta.Apunta (c : Cuenta) : Cerrojo → Prop
  | .archivo p => (c.claves p).isSome = true
  | _ => True

/-- Each lock comes after all that are held, each unlock is of one that is held, pointers are
    set when they point nowhere, and a mutex is removed by who has none. -/
def Disciplinada (antes : Rango → Rango → Prop) : Cuenta → List Accion → Prop
  | c, [] => c = sinNada
  | c, .lock x :: resto => c.Apunta x ∧ x ∉ c.tomados ∧
      (∀ y ∈ c.tomados, antes (c.rango y) (c.rango x)) ∧ Disciplinada antes (c.tomar x) resto
  | c, .unlock x :: resto => x ∈ c.tomados ∧ Disciplinada antes (c.soltar x) resto
  | c, .obtener p clave :: resto => c.claves p = none ∧
      Disciplinada antes (c.apuntar p clave) resto
  | c, .quitar _ :: resto => (∀ p, c.claves p = none) ∧ Disciplinada antes c resto

def Lleva (antes : Rango → Rango → Prop) (c : Cuenta) (as : List Accion) (c' : Cuenta) : Prop :=
  ∀ resto, Disciplinada antes c' resto → Disciplinada antes c (as ++ resto)

variable {antes : Rango → Rango → Prop} {c c' c'' : Cuenta} {as bs : List Accion} {x : Cerrojo}

theorem lleva_nil (antes : Rango → Rango → Prop) (c : Cuenta) : Lleva antes c [] c :=
  fun _ h => h

theorem lleva_append (first : Lleva antes c as c') (second : Lleva antes c' bs c'') :
    Lleva antes c (as ++ bs) c'' := by
  intro resto h
  rw [List.append_assoc]
  exact first _ (second resto h)

variable (x) in
theorem lleva_bajo (points : c.Apunta x) (free : x ∉ c.tomados)
    (order : ∀ y ∈ c.tomados, antes (c.rango y) (c.rango x))
    (body : Lleva antes (c.tomar x) as c') (held : x ∈ c'.tomados) :
    Lleva antes c (bajo x as) (c'.soltar x) := by
  intro resto h
  refine ⟨points, free, order, ?_⟩
  have rest := body (.unlock x :: resto) ⟨held, h⟩
  simpa using rest

theorem lleva_seccionesBitmap (free : .bitmap ∉ c.tomados)
    (order : ∀ y ∈ c.tomados, antes (c.rango y) (c.rango .bitmap)) (n : Nat) :
    Lleva antes c (seccionesBitmap n) c := by
  induction n with
  | zero => exact lleva_nil antes c
  | succ n ih =>
    have one : Lleva antes c (bajo .bitmap []) c := by
      have done := lleva_bajo .bitmap trivial free order (lleva_nil antes _)
        List.mem_cons_self
      simpa [Cuenta.soltar, Cuenta.tomar] using done
    have rest := lleva_append one ih
    simpa [seccionesBitmap, List.replicate_succ] using rest

theorem lleva_obtener (p : Puntero) (f : Nombres) (free : c.tomados = [])
    (unset : c.claves p = none) :
    Lleva antes c (getOrCreateFileMutex p f) (c.apuntar p f.clave) := by
  have got : Lleva antes (c.tomar .dictLocks) [.obtener p f.clave]
      ((c.tomar .dictLocks).apuntar p f.clave) := fun resto h => ⟨unset, h⟩
  have done := lleva_bajo .dictLocks trivial (by simp [free]) (by simp [free]) got
    List.mem_cons_self
  simpa [getOrCreateFileMutex, Cuenta.soltar, Cuenta.tomar, Cuenta.apuntar] using done

theorem lleva_quitar (f : Nombres) : Lleva antes sinNada (removeFileMutex f) sinNada := by
  have gone : Lleva antes (sinNada.tomar .dictLocks) [.quitar f.clave]
      (sinNada.tomar .dictLocks) := fun resto h => ⟨fun _ => rfl, h⟩
  have done := lleva_bajo .dictLocks trivial (by simp [sinNada]) (by simp [sinNada]) gone
    List.mem_cons_self
  simpa [removeFileMutex, Cuenta.soltar, Cuenta.tomar] using done

def enArchivo (f : Nombres) : Cuenta :=
  (sinNada.apuntar .a f.clave).tomar (.archivo .a)

theorem lleva_conFileMutex (f : Nombres) (body : Lleva antes (enArchivo f) as (enArchivo f)) :
    Lleva antes sinNada (conFileMutex f as) sinNada := by
  have got : Lleva antes sinNada _ _ := lleva_obtener .a f rfl rfl
  have inside : Lleva antes (sinNada.apuntar .a f.clave) _ _ := lleva_bajo (.archivo .a)
    (by simp [Cuenta.Apunta, Cuenta.apuntar]) (by simp [sinNada, Cuenta.apuntar])
    (by simp [sinNada, Cuenta.apuntar]) body List.mem_cons_self
  have closed : (enArchivo f).soltar (.archivo .a) = sinNada := by
    simp [enArchivo, Cuenta.soltar, Cuenta.tomar, Cuenta.apuntar, sinNada]
  rw [closed] at inside
  exact lleva_append got inside

variable (mono : ∀ r q : Rango, r < q → antes r q)
include mono

theorem antes_global (k : String) {n : Nat} (pos : 0 < n) :
    antes (toLex (0, k)) (toLex (n, "")) :=
  mono _ _ (Prod.Lex.lt_iff.mpr (.inl pos))

theorem lleva_secciones (f : Nombres) (n : Nat) :
    Lleva antes (enArchivo f) (seccionesBitmap n) (enArchivo f) := by
  apply lleva_seccionesBitmap
  · simp [enArchivo, Cuenta.tomar, Cuenta.apuntar, sinNada]
  · simpa [enArchivo, Cuenta.tomar, Cuenta.apuntar, sinNada, Cuenta.rango] using
      antes_global mono f.clave Nat.two_pos

theorem lleva_evitarDuplicidad (f : Nombres) (n : Nat) :
    Lleva antes (enArchivo f) (evitarDuplicidad n) (enArchivo f) := by
  have body : Lleva antes ((enArchivo f).tomar .hashIndex) (seccionesBitmap n)
      ((enArchivo f).tomar .hashIndex) := by
    apply lleva_seccionesBitmap
    · simp [enArchivo, Cuenta.tomar, Cuenta.apuntar, sinNada]
    · have hash : antes (toLex (1, "")) (toLex (2, "")) :=
        mono _ _ (Prod.Lex.lt_iff.mpr (.inl Nat.one_lt_two))
      simpa [enArchivo, Cuenta.tomar, Cuenta.apuntar, sinNada, Cuenta.rango, hash] using
        antes_global mono f.clave Nat.two_pos
  have done := lleva_bajo .hashIndex trivial
    (by simp [enArchivo, Cuenta.tomar, Cuenta.apuntar, sinNada])
    (by simpa [enArchivo, Cuenta.tomar, Cuenta.apuntar, sinNada, Cuenta.rango] using
      antes_global mono f.clave Nat.one_pos) body List.mem_cons_self
  simpa [evitarDuplicidad, Cuenta.soltar, Cuenta.tomar] using done

omit mono in
theorem lleva_tagFile (origen destino : Nombres)
    (order : origen.protegido = false → antes (toLex (0, (ordenTag origen destino).1.clave))
      (toLex (0, (ordenTag origen destino).2.clave))) :
    Lleva antes sinNada (tagFile origen destino) sinNada := by
  unfold tagFile
  by_cases protected_ : origen.protegido = true
  · rw [if_pos protected_]
    exact lleva_nil antes sinNada
  rw [if_neg protected_]
  have order := order (by simpa using protected_)
  generalize ordenTag origen destino = orden at order ⊢
  obtain ⟨f, g⟩ := orden
  have first : Lleva antes sinNada _ _ := lleva_obtener .a f rfl rfl
  have second : Lleva antes (sinNada.apuntar .a f.clave) _ _ := lleva_obtener .b g rfl rfl
  let ambos := (sinNada.apuntar .a f.clave).apuntar .b g.clave
  have inner : Lleva antes (ambos.tomar (.archivo .a)) _ _ := lleva_bajo (.archivo .b) rfl
    (by simp [ambos, Cuenta.tomar, Cuenta.apuntar, sinNada])
    (by simpa [ambos, Cuenta.tomar, Cuenta.apuntar, sinNada, Cuenta.rango] using order)
    (lleva_nil antes _) List.mem_cons_self
  have still : .archivo .a ∈ (((ambos.tomar (.archivo .a)).tomar (.archivo .b)).soltar
      (.archivo .b)).tomados := by
    simp [Cuenta.soltar, Cuenta.tomar]
  have outer : Lleva antes ambos _ _ := lleva_bajo (.archivo .a) rfl
    (by simp [ambos, Cuenta.apuntar, sinNada]) (by simp [ambos, Cuenta.apuntar, sinNada])
    inner still
  have closed : (((ambos.tomar (.archivo .a)).tomar (.archivo .b)).soltar (.archivo .b)).soltar
      (.archivo .a) = sinNada := by
    simp only [Cuenta.soltar, Cuenta.tomar, List.erase_cons_head, sinNada, ambos,
      Cuenta.apuntar, Cuenta.mk.injEq, and_true]
    funext p
    cases p <;> rfl
  rw [closed] at outer
  exact lleva_append (lleva_append first second) outer

def TagEnOrden (antes : Rango → Rango → Prop) : Solicitud → Prop
  | .tagFile origen destino => origen.protegido = false →
      antes (toLex (0, (ordenTag origen destino).1.clave))
        (toLex (0, (ordenTag origen destino).2.clave))
  | _ => True

theorem lleva_acciones (r : Solicitud) (tag : TagEnOrden antes r) :
    Lleva antes sinNada (acciones r) sinNada := by
  cases r with
  | crearFile f => exact lleva_conFileMutex f (lleva_nil antes _)
  | truncarFile f liberados => exact lleva_conFileMutex f (lleva_secciones mono f liberados)
  | tagFile origen destino => exact lleva_tagFile origen destino tag
  | leerBloque f => exact lleva_conFileMutex f (lleva_nil antes _)
  | escribirBloque f diferenciada => exact lleva_conFileMutex f (lleva_secciones mono f _)
  | realizarCommit f deduplica persiste =>
    refine lleva_conFileMutex f (lleva_append ?_ (lleva_secciones mono f _))
    cases deduplica with
    | none => exact lleva_nil antes _
    | some n => exact lleva_evitarDuplicidad mono f n
  | flushArchivo f secciones => exact lleva_conFileMutex f (lleva_secciones mono f secciones)
  | eliminarFileTag f secciones borrado =>
    simp only [acciones, eliminarFileTag]
    by_cases protected_ : f.protegido = true
    · rw [if_pos protected_]
      exact lleva_nil antes sinNada
    · rw [if_neg protected_]
      refine lleva_append (lleva_conFileMutex f (lleva_secciones mono f secciones)) ?_
      cases borrado with
      | true => exact lleva_quitar f
      | false => exact lleva_nil antes sinNada

theorem disciplinada_solicitudes (rs : List Solicitud) (tags : ∀ r ∈ rs, TagEnOrden antes r) :
    Disciplinada antes sinNada (rs.flatMap acciones) := by
  induction rs with
  | nil => rfl
  | cons r rs ih =>
    rw [List.flatMap_cons]
    exact lleva_acciones mono r (tags r (by simp)) _
      (ih fun q hq => tags q (List.mem_cons_of_mem r hq))

end StorageDisciplina
