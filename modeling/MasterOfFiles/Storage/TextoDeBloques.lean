import MasterOfFiles.Lib.Decimal
import MasterOfFiles.Storage.Estado

/-!
BLOCKS in metadata.config as text: the two functions that write it, and those that read it
back through config_get_array_value, which is a parameter.
-/
namespace StorageTextoDeBloques
open StorageEstado Decimal

/-- `none` is NULL. -/
abbrev Arreglo := Option (List Text)

def getArrayLength (array : Arreglo) : Nat := (array.getD []).length

/-- The array, NULL for no blocks, and cantidad_bloques_fisico. -/
def leerBloquesActuales (array : Arreglo) : Option (List Int32) × Nat :=
  match array with
  | none => (none, 0)
  | some array =>
    if array = [] ∨ array = [[]] then (none, 0)
    else
      let n := (array.takeWhile (· ≠ [])).length
      if n = 0 then (none, 0) else (some ((array.take n).map atoi), n)

/-- The loop of both serialisers: a comma after each number but the last. -/
def agregarNumeros : Text → List Text → Text
  | resultado, [] => resultado
  | resultado, num :: resto =>
    agregarNumeros (resultado ++ num ++ if resto = [] then [] else [',']) resto

def serializarBloques (bloques : List Int32) : Text :=
  agregarNumeros ['['] (bloques.map fun b => decimal b.toInt) ++ [']']

def serializarBloquesArray (bloques : Arreglo) : Text :=
  match bloques with
  | none | some [] => ['[', ']']
  | some bloques => agregarNumeros ['['] bloques ++ [']']

/-- The new text of BLOCKS, when escribir_bloque sets one. -/
def actualizarBloque (bloquesActuales : Arreglo) (bloqueLogico : Nat) (bloqueFisico : Int32) :
    Option Text :=
  match bloquesActuales with
  | none => none
  | some bloques =>
    if bloqueLogico < getArrayLength bloquesActuales then
      some (serializarBloquesArray (some (bloques.set bloqueLogico (decimal bloqueFisico.toInt))))
    else none

/-- config_get_array_value: the pieces between the commas, which need no trimming here. -/
structure ParteEnComas (configGetArrayValue : Text → List Text) : Prop where
  piezas : ∀ ps : List Text, ps ≠ [] →
    (∀ p ∈ ps, p ≠ [] ∧ ∀ c ∈ p, c = '-' ∨ c.isDigit = true) →
    configGetArrayValue ('[' :: ([','].intercalate ps ++ [']'])) = ps
  vacio : configGetArrayValue ['[', ']'] = [] ∨ configGetArrayValue ['[', ']'] = [[]]

variable {configGetArrayValue : Text → List Text} {bs : List Int32} {ps : List Text} {i : Nat}

theorem agregarNumeros_eq (ps : List Text) :
    ∀ resultado : Text, agregarNumeros resultado ps = resultado ++ [','].intercalate ps := by
  induction ps with
  | nil => simp [agregarNumeros]
  | cons num resto ih =>
    intro resultado
    cases resto with
    | nil => simp [agregarNumeros]
    | cons otro resto => rw [agregarNumeros, ih]; simp

def numeros (bs : List Int32) : List Text := bs.map fun b => decimal b.toInt

theorem serializarBloques_eq (bs : List Int32) :
    serializarBloques bs = '[' :: ([','].intercalate (numeros bs) ++ [']']) := by
  rw [serializarBloques, agregarNumeros_eq]
  rfl

theorem serializarBloquesArray_eq (ps : List Text) :
    serializarBloquesArray (some ps) = '[' :: ([','].intercalate ps ++ [']']) := by
  cases ps with
  | nil => rfl
  | cons p ps =>
    rw [serializarBloquesArray, agregarNumeros_eq]
    · rfl
    · simp

theorem piezas_numeros (bs : List Int32) :
    ∀ p ∈ numeros bs, p ≠ [] ∧ ∀ c ∈ p, c = '-' ∨ c.isDigit = true := by
  intro p hp
  obtain ⟨b, _, rfl⟩ := List.mem_map.mp hp
  exact ⟨decimal_ne_nil b.toInt, fun c hc => mem_decimal hc⟩

theorem arreglo_leido (parte : ParteEnComas configGetArrayValue) (some_ : bs ≠ []) :
    configGetArrayValue (serializarBloques bs) = numeros bs := by
  rw [serializarBloques_eq]
  refine parte.piezas (numeros bs) ?_ (piezas_numeros bs)
  simpa [numeros] using some_

theorem leerBloquesActuales_numeros (some_ : bs ≠ []) :
    leerBloquesActuales (some (numeros bs)) = (some bs, bs.length) := by
  have full : ∀ p ∈ numeros bs, p ≠ [] := fun p hp => (piezas_numeros bs p hp).1
  have all : (numeros bs).takeWhile (· ≠ []) = numeros bs :=
    List.takeWhile_eq_self_iff.mpr fun p hp => by simpa using full p hp
  have count : (numeros bs).length = bs.length := List.length_map _
  have pos : bs.length ≠ 0 := by simpa using some_
  have notEmpty : ¬ (numeros bs = [] ∨ numeros bs = [[]]) := by
    rintro (nil | blank)
    · rw [nil] at count
      exact pos count.symm
    · exact full [] (by simp [blank]) rfl
  have back : (numeros bs).map atoi = bs := by
    rw [numeros, List.map_map]
    exact List.map_id'' (fun b => atoi_decimal b) bs
  unfold leerBloquesActuales
  dsimp only
  rw [if_neg notEmpty, all, count, if_neg pos, ← count, List.take_length, back]

theorem leerBloquesActuales_vacio (parte : ParteEnComas configGetArrayValue) :
    leerBloquesActuales (some (configGetArrayValue (serializarBloques []))) = (none, 0) := by
  show leerBloquesActuales (some (configGetArrayValue ['[', ']'])) = (none, 0)
  rcases parte.vacio with nil | blank
  · rw [nil]
    rfl
  · rw [blank]
    rfl

theorem numeros_set (bs : List Int32) (i : Nat) (v : Int32) :
    (numeros bs).set i (decimal v.toInt) = numeros (bs.set i v) :=
  (List.map_set ..).symm

/-- What is written is read back, by either writer, and an entry is replaced on its own. -/
theorem texto_de_bloques_ida_y_vuelta (parte : ParteEnComas configGetArrayValue) (bs : List Int32) :
    leerBloquesActuales (some (configGetArrayValue (serializarBloques bs))) =
        (if bs = [] then none else some bs, bs.length) ∧
      serializarBloquesArray (some (bs.map fun b => decimal b.toInt)) = serializarBloques bs ∧
      ∀ i, i < bs.length → ∀ v : Int32,
        actualizarBloque (some (configGetArrayValue (serializarBloques bs))) i v =
          some (serializarBloques (bs.set i v)) := by
  refine ⟨?_, ?_, ?_⟩
  · by_cases none_ : bs = []
    · subst none_
      exact leerBloquesActuales_vacio parte
    · rw [arreglo_leido parte none_, leerBloquesActuales_numeros none_, if_neg none_]
  · rw [serializarBloquesArray_eq, serializarBloques_eq]
    rfl
  · intro i hi v
    have some_ : bs ≠ [] := List.ne_nil_of_length_pos (Nat.zero_lt_of_lt hi)
    have inside : i < getArrayLength (some (numeros bs)) := by
      simpa [getArrayLength, numeros] using hi
    rw [arreglo_leido parte some_, actualizarBloque, if_pos inside, numeros_set,
      serializarBloquesArray_eq, serializarBloques_eq]

/-- As so-commons does it. -/
def partirEnComas (texto : Text) : List Text := texto.tail.dropLast.splitOn ','

theorem parteEnComas_partir : ParteEnComas partirEnComas := by
  constructor
  · intro ps some_ chars
    have clean : ∀ p ∈ ps, ',' ∉ p := by
      intro p hp comma
      rcases (chars p hp).2 ',' comma with sign | digit <;> contradiction
    rw [partirEnComas, List.tail_cons, List.dropLast_concat]
    exact List.splitOn_intercalate ',' clean some_
  · exact .inr rfl

theorem texto_de_bloques_ida_y_vuelta_partir :
    leerBloquesActuales (some (partirEnComas (serializarBloques [12, -3]))) =
        (some [12, -3], 2) ∧
      serializarBloquesArray (some ([12, -3].map fun b : Int32 => decimal b.toInt)) =
        serializarBloques [12, -3] ∧
      ∀ i, i < 2 → ∀ v : Int32,
        actualizarBloque (some (partirEnComas (serializarBloques [12, -3]))) i v =
          some (serializarBloques ([12, -3].set i v)) :=
  texto_de_bloques_ida_y_vuelta parteEnComas_partir [12, -3]

theorem arreglo_crudo (parte : ParteEnComas configGetArrayValue) (some_ : bs ≠ []) :
    getArrayLength (some (configGetArrayValue (serializarBloques bs))) = bs.length ∧
      ∀ i : Nat, (configGetArrayValue (serializarBloques bs))[i]?.map atoi = bs[i]? := by
  rw [arreglo_leido parte some_]
  refine ⟨by simp [getArrayLength, numeros], fun i => ?_⟩
  rw [numeros, List.getElem?_map, Option.map_map]
  exact (Option.map_congr fun b _ => atoi_decimal b).trans Option.map_id'

theorem blocks_de_carpeta (parte : ParteEnComas configGetArrayValue) (c : Carpeta)
    (ints : ∀ b ∈ c.blocks, (b : Int) < 2 ^ 31) (some_ : c.blocks ≠ []) :
    ∀ i : Nat, (configGetArrayValue (serializarBloques (c.blocks.map Int32.ofNat)))[i]?.map
      (fun p => (atoi p).toInt) = c.blocks[i]?.map Int.ofNat := by
  intro i
  have full : c.blocks.map Int32.ofNat ≠ [] := by simpa using some_
  have raw := (arreglo_crudo parte full).2 i
  rw [show (fun p => (atoi p).toInt) = Int32.toInt ∘ atoi from rfl, ← Option.map_map, raw,
    List.getElem?_map, Option.map_map]
  refine Option.map_congr fun b hb => ?_
  have range := ints b (List.mem_of_getElem? hb)
  exact Int32.toInt_ofInt_of_le (by omega) range

end StorageTextoDeBloques
