import MasterOfFiles.Lib.Decimal
import MasterOfFiles.Worker.Lectura

/-!
decode over the text of a line. string_trim and string_n_split are those of so-commons and stay
parameters. A NULL string that goes to a function ends decode with `none`.
-/
namespace WorkerDecodificacion
open Decimal WorkerInterprete WorkerLectura

structure Commons where
  stringTrim : Linea → Linea
  stringNSplit : Linea → Nat → Char → List Linea
  aLoSumo : ∀ (texto : Linea) (n : Nat) (separador : Char),
    (stringNSplit texto n separador).length ≤ n

/-- t_instr_param: `none` is what calloc left there. -/
structure InstrParam where
  nombreFile : Option Linea := none
  tag : Option Linea := none
  tamanio : Option Int32 := none
  direccionBase : Option Int32 := none
  contenido : Option Linea := none
  nombreFileOrg : Option Linea := none
  tagOrigen : Option Linea := none
  nombreFileDestino : Option Linea := none
  tagDestino : Option Linea := none
  deriving DecidableEq

/-- t_decode: `none` is whatever malloc left there. -/
structure Decodificada where
  fin : Option Bool := none
  instruccionMalformada : Option Bool := none
  ejecutaInstruccion : Option Instruccion := none
  parametros : InstrParam := {}
  deriving DecidableEq

def stringEqualsIgnoreCase (a b : Linea) : Bool := a.map Char.toLower == b.map Char.toLower

def ejecutable (i : Instruccion) (parametros : InstrParam) : Decodificada :=
  ⟨some false, some false, some i, parametros⟩

/-- What is returned for a word on its own, but for CREATE: fin is not set. -/
def incompleta : Decodificada := { instruccionMalformada := some true }

variable (so : Commons)

def sinComentario (instruccion : Linea) : Linea :=
  if '#' ∈ instruccion then so.stringTrim (instruccion.takeWhile (· ≠ '#')) else instruccion

def auxSepararFileTag (cadena : Option Linea) : Option (List Linea) :=
  cadena.map fun cadena => so.stringNSplit cadena 2 ':'

/-- CREATE, COMMIT, FLUSH and DELETE. -/
def decodeFileTag (i : Instruccion) (cadena : Option Linea) : Option Decodificada := do
  let param ← auxSepararFileTag so cadena
  let nombreFile ← param[0]?
  let tag ← param[1]?
  return ejecutable i { nombreFile := some nombreFile, tag := some tag }

def decodeTruncate (resto : Linea) : Option Decodificada := do
  let fileTam := so.stringNSplit resto 2 ' '
  let tamanio ← fileTam[1]?
  let fileTag ← auxSepararFileTag so fileTam[0]?
  let nombreFile ← fileTag[0]?
  let tag ← fileTag[1]?
  return ejecutable .truncate
    { nombreFile := some nombreFile, tag := some tag, tamanio := some (atoi tamanio) }

def decodeWrite (resto : Linea) : Option Decodificada := do
  let princ := so.stringNSplit resto 3 ' '
  let direccionBase ← princ[1]?
  let contenido ← princ[2]?
  let fileTag ← auxSepararFileTag so princ[0]?
  let nombreFile ← fileTag[0]?
  let tag ← fileTag[1]?
  return ejecutable .write
    { nombreFile := some nombreFile, tag := some tag, contenido := some contenido
      direccionBase := some (atoi direccionBase) }

def decodeRead (resto : Linea) : Option Decodificada := do
  let princ := so.stringNSplit resto 3 ' '
  let direccionBase ← princ[1]?
  let tamanio ← princ[2]?
  let fileTag ← auxSepararFileTag so princ[0]?
  let nombreFile ← fileTag[0]?
  let tag ← fileTag[1]?
  return ejecutable .read
    { nombreFile := some nombreFile, tag := some tag, tamanio := some (atoi tamanio)
      direccionBase := some (atoi direccionBase) }

def decodeTag (resto : Linea) : Option Decodificada := do
  let tagParams := so.stringNSplit resto 2 ' '
  let org ← auxSepararFileTag so tagParams[0]?
  let dest ← auxSepararFileTag so tagParams[1]?
  let nombreFileOrg ← org[0]?
  let tagOrigen ← org[1]?
  let nombreFileDestino ← dest[0]?
  let tagDestino ← dest[1]?
  return ejecutable .tag
    { nombreFileOrg := some nombreFileOrg, tagOrigen := some tagOrigen
      nombreFileDestino := some nombreFileDestino, tagDestino := some tagDestino }

/-- The check of parametros[1] that every instruction but CREATE makes. -/
def conParametros (decodeResto : Linea → Option Decodificada) :
    Option Linea → Option Decodificada
  | none => some incompleta
  | some resto => decodeResto resto

def decode (instruccion : Linea) : Option Decodificada := do
  let parametros := so.stringNSplit (sinComentario so instruccion) 2 ' '
  let palabra ← parametros[0]?
  let es (nombre : String) : Bool := stringEqualsIgnoreCase palabra nombre.toList
  if es "CREATE" then decodeFileTag so .create parametros[1]?
  else if es "TRUNCATE" then conParametros (decodeTruncate so) parametros[1]?
  else if es "WRITE" then conParametros (decodeWrite so) parametros[1]?
  else if es "READ" then conParametros (decodeRead so) parametros[1]?
  else if es "TAG" then conParametros (decodeTag so) parametros[1]?
  else if es "COMMIT" then
    conParametros (fun resto => decodeFileTag so .commit (some resto)) parametros[1]?
  else if es "FLUSH" then
    conParametros (fun resto => decodeFileTag so .flush (some resto)) parametros[1]?
  else if es "DELETE" then
    conParametros (fun resto => decodeFileTag so .delete (some resto)) parametros[1]?
  else if es "END" then return { fin := some true, instruccionMalformada := some false }
  else return { fin := some false, instruccionMalformada := some true }

inductive Clase where
  | fin
  | malformada
  | ejecuta (i : Instruccion)
  deriving DecidableEq

def InstrParam.completos (p : InstrParam) : Instruccion → Bool
  | .create | .commit | .flush | .delete => p.nombreFile.isSome && p.tag.isSome
  | .truncate => p.nombreFile.isSome && p.tag.isSome && p.tamanio.isSome
  | .write =>
    p.nombreFile.isSome && p.tag.isSome && p.direccionBase.isSome && p.contenido.isSome
  | .read => p.nombreFile.isSome && p.tag.isSome && p.direccionBase.isSome && p.tamanio.isSome
  | .tag =>
    p.nombreFileOrg.isSome && p.tagOrigen.isSome && p.nombreFileDestino.isSome &&
      p.tagDestino.isSome

/-- As query_interpreter_ciclo looks at it: fin first, then instruccion_malformada. A flag that
    was not set is neither true nor false. -/
def Decodificada.clase (d : Decodificada) : Option Clase :=
  match d.fin, d.instruccionMalformada, d.ejecutaInstruccion with
  | some true, _, _ => some .fin
  | some false, some true, _ => some .malformada
  | some false, some false, some i => if d.parametros.completos i then some (.ejecuta i) else none
  | _, _, _ => none

def Rinde (o : Option Decodificada) : Prop := ∃ d c, o = some d ∧ d.clase = some c

def Clasifica (instruccion : Linea) : Prop := Rinde (decode so instruccion)

def instruccionDe (palabra : Linea) : Option Instruccion :=
  let es (nombre : String) : Bool := stringEqualsIgnoreCase palabra nombre.toList
  if es "CREATE" then some .create
  else if es "TRUNCATE" then some .truncate
  else if es "WRITE" then some .write
  else if es "READ" then some .read
  else if es "TAG" then some .tag
  else if es "COMMIT" then some .commit
  else if es "FLUSH" then some .flush
  else if es "DELETE" then some .delete
  else none

def HayFileTag (cadena : Linea) : Prop := 2 ≤ (so.stringNSplit cadena 2 ':').length

def HayPalabras (n : Nat) (resto : Linea) : Prop :=
  n ≤ (so.stringNSplit resto n ' ').length ∧
    ∀ primera, (so.stringNSplit resto n ' ')[0]? = some primera → HayFileTag so primera

def Piezas (resto : Linea) : Instruccion → Prop
  | .create | .commit | .flush | .delete => HayFileTag so resto
  | .truncate => HayPalabras so 2 resto
  | .write | .read => HayPalabras so 3 resto
  | .tag => HayPalabras so 2 resto ∧
    ∀ segunda, (so.stringNSplit resto 2 ' ')[1]? = some segunda → HayFileTag so segunda

/-- There is a first word, and after the name of an instruction all its pieces. -/
def Completa (instruccion : Linea) : Prop :=
  ∃ palabra, (so.stringNSplit (sinComentario so instruccion) 2 ' ')[0]? = some palabra ∧
    ∀ i, instruccionDe palabra = some i →
      ∃ resto, (so.stringNSplit (sinComentario so instruccion) 2 ' ')[1]? = some resto ∧
        Piezas so resto i

variable {so : Commons} {cadena resto instruccion : Linea} {i : Instruccion}

theorem rinde_none : ¬ Rinde none := by
  rintro ⟨d, c, none_, _⟩
  contradiction

theorem rinde_some {d : Decodificada} {c : Clase} (class_ : d.clase = some c) : Rinde (some d) :=
  ⟨d, c, rfl, class_⟩

theorem rinde_incompleta : ¬ Rinde (some incompleta) := by
  rintro ⟨d, c, same, class_⟩
  cases same
  contradiction

theorem rinde_mitades {mitades : List Linea} {sigue : Linea → Linea → Option Decodificada}
    {P : Prop} (rest : ∀ x y, Rinde (sigue x y) ↔ P) :
    Rinde (mitades[0]?.bind fun x => mitades[1]?.bind fun y => sigue x y) ↔
      2 ≤ mitades.length ∧ P := by
  rcases mitades with _ | ⟨x, _ | ⟨y, more⟩⟩
  · simp [rinde_none]
  · simp [rinde_none]
  · simp [rest]

theorem rinde_separar {sigue : Linea → Linea → Option Decodificada}
    (full : ∀ f t, Rinde (sigue f t)) :
    Rinde ((auxSepararFileTag so (some cadena)).bind fun fileTag =>
      fileTag[0]?.bind fun nombreFile => fileTag[1]?.bind fun tag => sigue nombreFile tag) ↔
      HayFileTag so cadena :=
  (rinde_mitades fun f t => iff_true_intro (full f t)).trans (and_iff_left trivial)

theorem rinde_fileTag (i : Instruccion)
    (full : ∀ f t, InstrParam.completos { nombreFile := some f, tag := some t } i = true) :
    Rinde (decodeFileTag so i (some cadena)) ↔ HayFileTag so cadena :=
  rinde_separar fun f t => rinde_some (c := .ejecuta i) (by
    simp [ejecutable, Decodificada.clase, full])

theorem rinde_truncate : Rinde (decodeTruncate so resto) ↔ HayPalabras so 2 resto := by
  rcases words : so.stringNSplit resto 2 ' ' with _ | ⟨fileTag, _ | ⟨tam, rest⟩⟩
  · simp [decodeTruncate, HayPalabras, words, rinde_none]
  · simp [decodeTruncate, HayPalabras, words, rinde_none]
  · have first : HayPalabras so 2 resto ↔ HayFileTag so fileTag := by simp [HayPalabras, words]
    rw [first, decodeTruncate, words]
    exact rinde_separar fun f t => rinde_some (c := .ejecuta .truncate) rfl

theorem rinde_write : Rinde (decodeWrite so resto) ↔ HayPalabras so 3 resto := by
  rcases words : so.stringNSplit resto 3 ' ' with _ | ⟨fileTag, _ | ⟨base, _ | ⟨texto, rest⟩⟩⟩
  · simp [decodeWrite, HayPalabras, words, rinde_none]
  · simp [decodeWrite, HayPalabras, words, rinde_none]
  · simp [decodeWrite, HayPalabras, words, rinde_none]
  · have first : HayPalabras so 3 resto ↔ HayFileTag so fileTag := by simp [HayPalabras, words]
    rw [first, decodeWrite, words]
    exact rinde_separar fun f t => rinde_some (c := .ejecuta .write) rfl

theorem rinde_read : Rinde (decodeRead so resto) ↔ HayPalabras so 3 resto := by
  rcases words : so.stringNSplit resto 3 ' ' with _ | ⟨fileTag, _ | ⟨base, _ | ⟨tam, rest⟩⟩⟩
  · simp [decodeRead, HayPalabras, words, rinde_none]
  · simp [decodeRead, HayPalabras, words, rinde_none]
  · simp [decodeRead, HayPalabras, words, rinde_none]
  · have first : HayPalabras so 3 resto ↔ HayFileTag so fileTag := by simp [HayPalabras, words]
    rw [first, decodeRead, words]
    exact rinde_separar fun f t => rinde_some (c := .ejecuta .read) rfl

theorem rinde_tag : Rinde (decodeTag so resto) ↔ Piezas so resto .tag := by
  rcases words : so.stringNSplit resto 2 ' ' with _ | ⟨org, _ | ⟨dest, rest⟩⟩
  · simp [decodeTag, auxSepararFileTag, Piezas, HayPalabras, words, rinde_none]
  · simp [decodeTag, auxSepararFileTag, Piezas, HayPalabras, words, rinde_none]
  · have both : Piezas so resto .tag ↔ HayFileTag so org ∧ HayFileTag so dest := by
      simp [Piezas, HayPalabras, words]
    rw [both, decodeTag, words]
    exact rinde_mitades fun x y =>
      rinde_separar fun x' y' => rinde_some (c := .ejecuta .tag) rfl

theorem rinde_conParametros {decodeResto : Linea → Option Decodificada} {o : Option Linea} :
    Rinde (conParametros decodeResto o) ↔ ∃ resto, o = some resto ∧ Rinde (decodeResto resto) := by
  cases o with
  | none => exact iff_of_false rinde_incompleta (by simp)
  | some resto => simp [conParametros]

def decodeResto (so : Commons) (i : Instruccion) (resto : Linea) : Option Decodificada :=
  match i with
  | .create | .commit | .flush | .delete => decodeFileTag so i (some resto)
  | .truncate => decodeTruncate so resto
  | .write => decodeWrite so resto
  | .read => decodeRead so resto
  | .tag => decodeTag so resto

theorem rinde_decodeResto : Rinde (decodeResto so i resto) ↔ Piezas so resto i := by
  cases i with
  | create | commit | flush | delete => exact rinde_fileTag _ fun _ _ => rfl
  | truncate => exact rinde_truncate
  | write => exact rinde_write
  | read => exact rinde_read
  | tag => exact rinde_tag

theorem rinde_create {o : Option Linea} :
    Rinde (decodeFileTag so .create o) ↔
      ∃ resto, o = some resto ∧ Rinde (decodeResto so .create resto) := by
  cases o with
  | none => exact iff_of_false rinde_none (by simp)
  | some resto => simp [decodeResto]

theorem rinde_decode {palabra : Linea}
    (first : (so.stringNSplit (sinComentario so instruccion) 2 ' ')[0]? = some palabra) :
    Rinde (decode so instruccion) ↔ ∀ i, instruccionDe palabra = some i →
      ∃ resto, (so.stringNSplit (sinComentario so instruccion) 2 ' ')[1]? = some resto ∧
        Rinde (decodeResto so i resto) := by
  simp only [decode, first, Option.bind_eq_bind, Option.bind_some]
  unfold instruccionDe
  dsimp only
  split
  · simp only [Option.some.injEq, forall_eq']
    exact rinde_create
  iterate 7
    split
    · simp only [Option.some.injEq, forall_eq']
      exact rinde_conParametros
  · refine iff_of_true ?_ nofun
    split
    · exact rinde_some rfl
    · exact rinde_some rfl

/-- A line is classified exactly when it has a first word and, if that names an instruction,
    all the pieces of it. -/
theorem clasifica_iff_completa (so : Commons) (instruccion : Linea) :
    Clasifica so instruccion ↔ Completa so instruccion := by
  unfold Completa
  cases first : (so.stringNSplit (sinComentario so instruccion) 2 ' ')[0]? with
  | none =>
    have stops : decode so instruccion = none := by
      simp only [decode, first, Option.bind_eq_bind, Option.bind_none]
    refine iff_of_false ?_ (by simp)
    rw [Clasifica, stops]
    exact rinde_none
  | some palabra =>
    rw [Clasifica, rinde_decode first]
    simp only [Option.some.injEq, exists_eq_left', rinde_decodeResto]

/-- A line that fetch returns: trimmed, not empty, no comment. -/
structure EsLinea (linea : Linea) : Prop where
  recortada : ∀ c, linea.head? = some c ∨ linea.getLast? = some c → isSpace c = false
  cuenta : saltea linea = false

/-- string_trim and string_n_split on lines without repeated separators. -/
def partir : Nat → Linea → Char → List Linea
  | 0, _, _ => []
  | 1, texto, _ => if texto = [] then [] else [texto]
  | n + 2, texto, separador =>
    if texto = [] then []
    else
      texto.takeWhile (· ≠ separador) ::
        partir (n + 1) (texto.dropWhile (· ≠ separador)).tail separador

theorem length_partir (n : Nat) (texto : Linea) (separador : Char) :
    (partir n texto separador).length ≤ n := by
  fun_induction partir n texto separador with
  | case1 texto separador => exact Nat.le_refl 0
  | case2 separador => exact Nat.zero_le 1
  | case3 texto separador some_ => exact Nat.le_refl 1
  | case4 => exact Nat.zero_le _
  | case5 texto separador n some_ ih => exact Nat.succ_le_succ ih

def commonsSimple : Commons where
  stringTrim texto := ((texto.dropWhile isSpace).reverse.dropWhile isSpace).reverse
  stringNSplit texto n separador := partir n texto separador
  aLoSumo texto n separador := length_partir n texto separador

def soloCreate : Linea := ['C', 'R', 'E', 'A', 'T', 'E']

/-- CREATE on its own: NULL goes to string_n_split. -/
theorem create_solo_mal_clasificado :
    ¬ ∀ (so : Commons) (instruccion : Linea), EsLinea instruccion → Clasifica so instruccion := by
  intro all
  have line : EsLinea soloCreate := by
    constructor
    · intro c ends
      rcases ends with first | last
      · cases first
        decide
      · cases last
        decide
    · decide
  have stops : decode commonsSimple soloCreate = none := by decide
  have classified := all commonsSimple soloCreate line
  rw [Clasifica, stops] at classified
  exact rinde_none classified

example : (decode commonsSimple END).bind Decodificada.clase = some .fin := by decide

end WorkerDecodificacion
