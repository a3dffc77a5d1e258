import Mathlib.Data.List.Basic
import MasterOfFiles.Worker.Interprete

/-!
fetch over the text of a query file. A query that comes back starts at the top of the file and
skips as many instructions as its program counter says; blanks and comments are not counted.
-/
namespace WorkerLectura
open WorkerInformes WorkerInterprete

abbrev Linea := List Char

def END : Linea := ['E', 'N', 'D']

/-- The bytes up to the end of line, which is included, and those that stay in the file. -/
def getline : List Char → Option (List Char × List Char)
  | [] => none
  | c :: resto =>
    if c = '\n' then some ([c], resto)
    else
      match getline resto with
      | none => some ([c], [])
      | some (linea, sobra) => some (c :: linea, sobra)

theorem getline_none {archivo : List Char} (h : getline archivo = none) : archivo = [] := by
  cases archivo with
  | nil => rfl
  | cons c resto =>
    simp only [getline] at h
    split at h
    · contradiction
    · split at h <;> contradiction

theorem getline_some {archivo linea resto : List Char}
    (h : getline archivo = some (linea, resto)) :
    ∃ texto, '\n' ∉ texto ∧
      ((texto ≠ [] ∧ archivo = texto ∧ linea = texto ∧ resto = []) ∨
        (archivo = texto ++ '\n' :: resto ∧ linea = texto ++ ['\n'])) := by
  induction archivo generalizing linea with
  | nil => contradiction
  | cons c cs ih =>
    simp only [getline] at h
    split at h
    · rename_i fin
      cases h
      exact ⟨[], by simp, .inr ⟨by simp [fin], by simp [fin]⟩⟩
    · rename_i seguida
      split at h
      · rename_i ended
        cases h
        exact ⟨[c], by simpa using Ne.symm seguida, .inl ⟨by simp, by simp [getline_none ended]⟩⟩
      · rename_i linea' sobra more
        cases h
        obtain ⟨texto, whole, shape⟩ := ih more
        refine ⟨c :: texto, by simpa using ⟨Ne.symm seguida, whole⟩, ?_⟩
        rcases shape with ⟨_, all, line, rest⟩ | ⟨all, line⟩
        · exact .inl ⟨by simp, by rw [all], by rw [line], rest⟩
        · exact .inr ⟨by rw [all, List.cons_append], by rw [line, List.cons_append]⟩

theorem getline_menor {archivo linea resto : List Char}
    (h : getline archivo = some (linea, resto)) : resto.length < archivo.length := by
  obtain ⟨texto, _, ⟨some_, all, _, rest⟩ | ⟨all, _⟩⟩ := getline_some h
  · rw [rest, all]
    exact List.length_pos_iff.mpr some_
  · rw [all]
    simp
    omega

/-- The end that the program writes over the first '\n', or an earlier one in the file. -/
def hastaElFin (linea : List Char) : Linea :=
  linea.takeWhile fun c => c ≠ '\n' && c ≠ '\x00'

def saltea : Linea → Bool
  | [] => true
  | c :: _ => c = '#' || c = '\x00'

variable (recortar : Linea → Linea)

/-- The do loop of fetch, written three times there: none is the end of the file. -/
def siguienteLinea (archivo : List Char) : Option (Linea × List Char) :=
  match _h : getline archivo with
  | none => none
  | some (leida, resto) =>
    let linea := recortar (hastaElFin leida)
    if saltea linea then siguienteLinea resto else some (linea, resto)
termination_by archivo.length
decreasing_by exact getline_menor _h

/-- The for loop that skips the instructions already run. -/
def saltearEjecutadas : Nat → List Char → Option (List Char)
  | 0, archivo => some archivo
  | n + 1, archivo =>
    match siguienteLinea recortar archivo with
    | none => none
    | some (_, resto) => saltearEjecutadas n resto

def leerLinea (archivo : List Char) : Linea × List Char :=
  (siguienteLinea recortar archivo).getD (END, [])

/-- pcb is the program counter that Master sent, pc the one of the interpreter. -/
def fetch (pcb pc : Nat) (archivo : List Char) : Linea × List Char :=
  if pcb ≠ 0 then
    if pc = pcb then
      match saltearEjecutadas recortar pcb archivo with
      | none => (END, [])
      | some resto => leerLinea recortar resto
    else leerLinea recortar archivo
  else leerLinea recortar archivo

def instrucciones (archivo : List Char) : List Linea :=
  ((archivo.splitOn '\n').map fun linea => recortar (hastaElFin linea)).filter
    fun linea => !saltea linea

variable {recortar}

theorem instrucciones_nil (vacia : recortar [] = []) : instrucciones recortar [] = [] := by
  simp [instrucciones, hastaElFin, vacia, saltea]

theorem hastaElFin_linea (linea : List Char) :
    hastaElFin (linea ++ ['\n']) = hastaElFin linea := by
  induction linea with
  | nil => simp [hastaElFin]
  | cons a linea ih =>
    simp only [hastaElFin, List.cons_append, List.takeWhile_cons] at ih ⊢
    rw [ih]

theorem instrucciones_getline (vacia : recortar [] = []) {archivo linea resto : List Char}
    (h : getline archivo = some (linea, resto)) :
    instrucciones recortar archivo =
      (if saltea (recortar (hastaElFin linea)) then [] else [recortar (hastaElFin linea)]) ++
        instrucciones recortar resto := by
  have keep : ∀ l : Linea, [l].filter (fun linea => !saltea linea) =
      if saltea l then [] else [l] := by
    intro l
    cases hl : saltea l <;> simp [hl]
  obtain ⟨texto, whole, ⟨_, rfl, rfl, rfl⟩ | ⟨rfl, rfl⟩⟩ := getline_some h
  · have one : linea.splitOn '\n' = [linea] := List.splitOn_eq_singleton whole
    rw [instrucciones_nil vacia, List.append_nil, instrucciones, one, List.map_singleton, keep]
  · have first : (texto ++ '\n' :: resto).splitOn '\n' = texto :: resto.splitOn '\n' := by
      rw [List.splitOn_append_cons_self, List.splitOn_eq_singleton whole, List.singleton_append]
    rw [hastaElFin_linea, instrucciones, first, List.map_cons, ← List.singleton_append,
      List.filter_append, keep]
    rfl

theorem siguienteLinea_spec (vacia : recortar [] = []) (archivo : List Char) :
    match siguienteLinea recortar archivo with
    | none => instrucciones recortar archivo = []
    | some (linea, resto) =>
      instrucciones recortar archivo = linea :: instrucciones recortar resto := by
  fun_induction siguienteLinea recortar archivo with
  | case1 archivo h => rw [getline_none h, instrucciones_nil vacia]
  | case2 archivo leida resto h linea skip ih =>
    rw [instrucciones_getline vacia h, if_pos skip]
    exact ih
  | case3 archivo leida resto h linea keep =>
    rw [instrucciones_getline vacia h, if_neg keep]
    rfl

theorem leerLinea_spec (vacia : recortar [] = []) (archivo : List Char) :
    (leerLinea recortar archivo).1 = ((instrucciones recortar archivo).head?).getD END ∧
    instrucciones recortar (leerLinea recortar archivo).2 =
      (instrucciones recortar archivo).tail := by
  have spec := siguienteLinea_spec vacia archivo
  unfold leerLinea
  split at spec
  · rename_i ended
    simp [ended, spec, instrucciones_nil vacia]
  · rename_i more
    simp [more, spec]

theorem saltearEjecutadas_spec (vacia : recortar [] = []) (n : Nat) (archivo : List Char) :
    match saltearEjecutadas recortar n archivo with
    | none => (instrucciones recortar archivo).drop n = []
    | some resto => instrucciones recortar resto = (instrucciones recortar archivo).drop n := by
  induction n generalizing archivo with
  | zero => rfl
  | succ n ih =>
    have spec := siguienteLinea_spec vacia archivo
    cases next : siguienteLinea recortar archivo with
    | none =>
      simp only [next] at spec
      simp [saltearEjecutadas, next, spec]
    | some leida =>
      simp only [next] at spec
      simp only [saltearEjecutadas, next, spec, List.drop_succ_cons]
      exact ih leida.2

def porLeer (recortar : Linea → Linea) (pcb pc : Nat) (archivo : List Char) : List Linea :=
  (instrucciones recortar archivo).drop (if pcb ≠ 0 ∧ pc = pcb then pcb else 0)

theorem fetch_seguida {pcb pc : Nat} (archivo : List Char) (later : ¬ (pcb ≠ 0 ∧ pc = pcb)) :
    fetch recortar pcb pc archivo = leerLinea recortar archivo := by
  unfold fetch
  by_cases back : pcb ≠ 0
  · rw [if_pos back, if_neg fun same => later ⟨back, same⟩]
  · rw [if_neg back]

theorem fetch_spec (vacia : recortar [] = []) (pcb pc : Nat) (archivo : List Char) :
    (fetch recortar pcb pc archivo).1 = ((porLeer recortar pcb pc archivo).head?).getD END ∧
    instrucciones recortar (fetch recortar pcb pc archivo).2 =
      (porLeer recortar pcb pc archivo).tail := by
  by_cases skips : pcb ≠ 0 ∧ pc = pcb
  · unfold fetch porLeer
    rw [if_pos skips, if_pos skips.1, if_pos skips.2]
    have spec := saltearEjecutadas_spec vacia pcb archivo
    split at spec
    · simp [spec, instrucciones_nil vacia]
    · rename_i resto _
      rw [← spec]
      exact leerLinea_spec vacia resto
  · rw [fetch_seguida archivo skips, porLeer, if_neg skips, List.drop_zero]
    exact leerLinea_spec vacia archivo

theorem fetch_decodificada (vacia : recortar [] = []) {decode : Linea → Decode}
    (fin : decode END = .fin) (nombre : String) (queryId : Int) (pcb pc : Nat)
    (archivo : List Char) :
    WorkerInterprete.fetch ⟨(instrucciones recortar archivo).map decode, nombre, queryId, pcb⟩ pc =
      (decode (fetch recortar pcb pc archivo).1,
        (instrucciones recortar (fetch recortar pcb pc archivo).2).map decode) := by
  obtain ⟨first, rest⟩ := fetch_spec vacia pcb pc archivo
  have lines : (if pcb ≠ 0 ∧ pc = pcb then ((instrucciones recortar archivo).map decode).drop pcb
      else (instrucciones recortar archivo).map decode) =
      (porLeer recortar pcb pc archivo).map decode := by
    unfold porLeer
    split <;> simp
  rw [first, rest, WorkerInterprete.fetch, lines]
  cases porLeer recortar pcb pc archivo <;> simp [fin]

/-- programCounter is the field of t_query in Master; pcb, pc and archivo are those of the
    Worker that has the query; leidas has what fetch returned in all the assignments. -/
structure Consulta where
  programCounter : Nat
  pcb : Nat
  pc : Nat
  archivo : List Char
  leidas : List Linea
  terminada : Bool

def Consulta.asignar (contenido : List Char) (q : Consulta) : Consulta :=
  { q with pcb := q.programCounter, pc := q.programCounter, archivo := contenido }

def Decode.termina : Decode → Bool
  | .ejecuta _ _ => false
  | _ => true

/-- One turn of query_interpreter_ciclo, and what follows when the query is preempted after it:
    WORKER_PC_UPDATE and another assignment. -/
def Consulta.vuelta (recortar : Linea → Linea) (decode : Linea → Decode)
    (contenido : List Char) (q : Consulta) (desalojada : Bool) : Consulta :=
  if q.terminada then q
  else
    let leida := fetch recortar q.pcb q.pc q.archivo
    let q := { q with pc := q.pc + 1, archivo := leida.2, leidas := q.leidas ++ [leida.1] }
    if Decode.termina (decode leida.1) then { q with terminada := true }
    else if desalojada then Consulta.asignar contenido { q with programCounter := q.pc }
    else q

def consultaNueva (contenido : List Char) : Consulta :=
  Consulta.asignar contenido ⟨0, 0, 0, contenido, [], false⟩

def hastaTerminar (decode : Linea → Decode) : List Linea → List Linea
  | [] => []
  | linea :: resto =>
    if Decode.termina (decode linea) then [linea] else linea :: hastaTerminar decode resto

structure Alineada (recortar : Linea → Linea) (contenido : List Char) (q : Consulta) : Prop where
  pc : q.pc = q.leidas.length
  pcb : q.pcb ≤ q.pc
  resto : porLeer recortar q.pcb q.pc q.archivo = (instrucciones recortar contenido).drop q.pc

variable {decode : Linea → Decode} {contenido : List Char} {q : Consulta}

theorem alineada_asignar (count : q.programCounter = q.leidas.length) :
    Alineada recortar contenido (q.asignar contenido) := by
  refine ⟨count, Nat.le_refl _, ?_⟩
  unfold porLeer Consulta.asignar
  by_cases zero : q.programCounter = 0 <;> simp [zero]

theorem alineada_vuelta (vacia : recortar [] = []) (h : Alineada recortar contenido q)
    (running : q.terminada = false)
    (goes_on : Decode.termina (decode (fetch recortar q.pcb q.pc q.archivo).1) = false)
    (desalojada : Bool) :
    Alineada recortar contenido (q.vuelta recortar decode contenido desalojada) := by
  have rest := (fetch_spec vacia q.pcb q.pc q.archivo).2
  have bound := h.pcb
  simp only [Consulta.vuelta, running, goes_on, Bool.false_eq_true, if_false]
  cases desalojada with
  | true =>
    apply alineada_asignar
    simp [h.pc]
  | false =>
    refine ⟨by simp [h.pc], by simp only [Bool.false_eq_true, if_false]; omega, ?_⟩
    have later : ¬ (q.pcb ≠ 0 ∧ q.pc + 1 = q.pcb) := by omega
    simp only [Bool.false_eq_true, if_false, porLeer, if_neg later, List.drop_zero]
    rw [rest, h.resto, List.tail_drop]

theorem vueltas_terminada (done : q.terminada = true) (desalojos : List Bool) :
    desalojos.foldl (Consulta.vuelta recortar decode contenido) q = q := by
  induction desalojos with
  | nil => rfl
  | cons d desalojos ih => rw [List.foldl_cons, Consulta.vuelta, if_pos done, ih]

variable (recortar decode contenido) in
theorem leidas_vuelta (running : q.terminada = false) (d : Bool) :
    (q.vuelta recortar decode contenido d).leidas =
      q.leidas ++ [(fetch recortar q.pcb q.pc q.archivo).1] ∧
    (q.vuelta recortar decode contenido d).terminada =
      Decode.termina (decode (fetch recortar q.pcb q.pc q.archivo).1) := by
  simp only [Consulta.vuelta, running, Bool.false_eq_true, if_false]
  cases ends : Decode.termina (decode (fetch recortar q.pcb q.pc q.archivo).1) <;>
    cases d <;> simp [Consulta.asignar]

theorem leidas_vueltas (vacia : recortar [] = []) (fin : Decode.termina (decode END) = true)
    (h : Alineada recortar contenido q) (running : q.terminada = false)
    (desalojos : List Bool) :
    (desalojos.foldl (Consulta.vuelta recortar decode contenido) q).leidas = q.leidas ++
      (hastaTerminar decode ((instrucciones recortar contenido).drop q.pc ++ [END])).take
        desalojos.length := by
  induction desalojos generalizing q with
  | nil => simp
  | cons d desalojos ih =>
    have line := (fetch_spec vacia q.pcb q.pc q.archivo).1
    obtain ⟨read, ended⟩ := leidas_vuelta recortar decode contenido running d
    have place := h.resto
    rw [List.foldl_cons]
    cases ends : Decode.termina (decode (fetch recortar q.pcb q.pc q.archivo).1) with
    | true =>
      rw [vueltas_terminada (ended.trans ends), read]
      rw [place] at line
      cases left : (instrucciones recortar contenido).drop q.pc with
      | nil =>
        rw [left] at line
        simp [hastaTerminar, fin, line]
      | cons l ls =>
        rw [left] at line
        have here : l = (fetch recortar q.pcb q.pc q.archivo).1 := by simp [line]
        simp [hastaTerminar, here, ends]
    | false =>
      have next := alineada_vuelta vacia h running ends d
      rw [ih next (ended.trans ends), read, next.pc, read]
      rw [place] at line
      cases left : (instrucciones recortar contenido).drop q.pc with
      | nil =>
        rw [left] at line
        rw [line] at ends
        simp [fin] at ends
      | cons l ls =>
        rw [left] at line
        have here : l = (fetch recortar q.pcb q.pc q.archivo).1 := by simp [line]
        have after : (instrucciones recortar contenido).drop (q.leidas.length + 1) = ls := by
          rw [← h.pc, ← List.tail_drop, left, List.tail_cons]
        simp [hastaTerminar, here, ends, after]

theorem hastaTerminar_todas (lineas : List Linea) (fin : Decode.termina (decode END) = true)
    (before : ∀ linea ∈ lineas.dropLast, Decode.termina (decode linea) = false) :
    hastaTerminar decode (lineas ++ [END]) =
      if lineas.getLast?.any (fun linea => Decode.termina (decode linea)) then lineas
      else lineas ++ [END] := by
  induction lineas with
  | nil => simp [hastaTerminar, fin]
  | cons linea lineas ih =>
    cases lineas with
    | nil => cases ends : Decode.termina (decode linea) <;> simp [hastaTerminar, fin, ends]
    | cons otra lineas =>
      have goes_on := before linea (by simp)
      have rest := ih fun l hl => before l (by simp [hl])
      rw [List.cons_append, hastaTerminar, goes_on, if_neg Bool.false_ne_true, rest,
        List.getLast?_cons_cons]
      split <;> rfl

/-- Whatever the preemptions, fetch gives each instruction once and in order, up to the first
    line that ends the query. When that can only be the last, it gives them all. -/
theorem cada_linea_una_vez (vacia : recortar [] = []) (fin : Decode.termina (decode END) = true)
    (contenido : List Char) (desalojos : List Bool) :
    (desalojos.foldl (Consulta.vuelta recortar decode contenido) (consultaNueva contenido)).leidas =
      (hastaTerminar decode (instrucciones recortar contenido ++ [END])).take desalojos.length ∧
    ((∀ linea ∈ (instrucciones recortar contenido).dropLast,
        Decode.termina (decode linea) = false) →
      (instrucciones recortar contenido).length < desalojos.length →
      (desalojos.foldl (Consulta.vuelta recortar decode contenido)
        (consultaNueva contenido)).leidas =
        if (instrucciones recortar contenido).getLast?.any
          (fun linea => Decode.termina (decode linea)) then instrucciones recortar contenido
        else instrucciones recortar contenido ++ [END]) := by
  have start : Alineada recortar contenido (consultaNueva contenido) := alineada_asignar rfl
  have all := leidas_vueltas vacia fin start rfl desalojos
  have clean : (consultaNueva contenido).leidas = [] ∧ (consultaNueva contenido).pc = 0 :=
    ⟨rfl, rfl⟩
  rw [clean.1, clean.2, List.nil_append, List.drop_zero] at all
  refine ⟨all, fun before enough => ?_⟩
  rw [all, hastaTerminar_todas _ fin before]
  apply List.take_of_length_le
  split
  · omega
  · simp only [List.length_append, List.length_singleton]
    omega

def sinBlancos (linea : Linea) : Linea :=
  ((linea.dropWhile Char.isWhitespace).reverse.dropWhile Char.isWhitespace).reverse

def decodeCreate (linea : Linea) : Decode := if linea = END then .fin else .ejecuta .create {}

theorem cada_linea_una_vez_dos :
    ([true, false, false].foldl (Consulta.vuelta sinBlancos decodeCreate
        "# a\nCREATE A:1\n\n COMMIT A:1".toList)
      (consultaNueva "# a\nCREATE A:1\n\n COMMIT A:1".toList)).leidas =
      ["CREATE A:1".toList, "COMMIT A:1".toList, END] := by
  have lines : instrucciones sinBlancos "# a\nCREATE A:1\n\n COMMIT A:1".toList =
      ["CREATE A:1".toList, "COMMIT A:1".toList] := by decide
  have vacia : sinBlancos [] = [] := rfl
  have fin : Decode.termina (decodeCreate END) = true := rfl
  have all := (cada_linea_una_vez vacia fin "# a\nCREATE A:1\n\n COMMIT A:1".toList
    [true, false, false]).2
  rw [lines] at all
  exact all (by decide) (by decide)

end WorkerLectura
