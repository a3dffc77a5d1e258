import MasterOfFiles.Protocolo.Paquetes
import MasterOfFiles.Protocolo.Solicitudes

/-!
The values of a packet as bytes: a C int is four of them, a C string one for each char and a
zero, a block those of its content. Who reads a packet takes each value by its position, as the
kind that it expects there.
-/
namespace Valores
open Paquetes Solicitudes StorageEstado

def numero : CodigoOp → Nat
  | .storageGetBlockSize => 45
  | .storageCreateFile => 46
  | .storageReadBlock => 47
  | .storageWriteBlock => 48
  | .storageSendBlockSize => 50
  | .storageTruncate => 51
  | .storageTag => 52
  | .storageCommit => 53
  | .storageFlush => 54
  | .storageDelete => 55
  | .storageSendOkCreateFile => 57
  | .storageSendOkReadBlock => 58
  | .storageSendOkWriteBlock => 59
  | .storageSendOkTruncate => 60
  | .storageSendOkTag => 61
  | .storageSendOkCommit => 62
  | .storageSendOkDelete => 63
  | .storageSendOkFlush => 64
  | .storageSendErrorCreateFile => 66
  | .storageSendErrorReadBlock => 67
  | .storageSendErrorWriteBlock => 68
  | .storageSendErrorTruncate => 69
  | .storageSendErrorTag => 70
  | .storageSendErrorCommit => 71
  | .storageSendErrorDelete => 72
  | .storageSendErrorFlush => 73

/-- The case of a switch that an op code goes to; `none` is the default. -/
def codigoDe (codOp : Entero) : Option CodigoOp :=
  match codOp.toNat with
  | 45 => some .storageGetBlockSize
  | 46 => some .storageCreateFile
  | 47 => some .storageReadBlock
  | 48 => some .storageWriteBlock
  | 50 => some .storageSendBlockSize
  | 51 => some .storageTruncate
  | 52 => some .storageTag
  | 53 => some .storageCommit
  | 54 => some .storageFlush
  | 55 => some .storageDelete
  | 57 => some .storageSendOkCreateFile
  | 58 => some .storageSendOkReadBlock
  | 59 => some .storageSendOkWriteBlock
  | 60 => some .storageSendOkTruncate
  | 61 => some .storageSendOkTag
  | 62 => some .storageSendOkCommit
  | 63 => some .storageSendOkDelete
  | 64 => some .storageSendOkFlush
  | 66 => some .storageSendErrorCreateFile
  | 67 => some .storageSendErrorReadBlock
  | 68 => some .storageSendErrorWriteBlock
  | 69 => some .storageSendErrorTruncate
  | 70 => some .storageSendErrorTag
  | 71 => some .storageSendErrorCommit
  | 72 => some .storageSendErrorDelete
  | 73 => some .storageSendErrorFlush
  | _ => none

theorem codigoDe_numero (codigo : CodigoOp) :
    codigoDe (BitVec.ofNat 32 (numero codigo)) = some codigo := by
  cases codigo <;> rfl

/-- The chars of a C string; each is one byte. -/
def bytesDeTexto (s : String) : Bytes := s.toList.map fun c => UInt8.ofNat c.toNat

def textoDe (bytes : Bytes) : String := String.ofList (bytes.map fun b => Char.ofNat b.toNat)

/-- What agregar_a_paquete copies of a value: a string goes with the zero that ends it. -/
def valor : Campo → Bytes
  | .entero n => bytesDe (BitVec.ofInt 32 n)
  | .texto s => bytesDeTexto s ++ [0]
  | .bloque contenido => contenido

/-- list_get on what recibir_paquete returns: position 0 holds the op code. -/
def listGet (lista : List Bytes) (i : Nat) : Option Bytes := lista[i - 1]?

def listSize (lista : List Bytes) : Nat := lista.length + 1

/-- A value read through an int*; none when it has less bytes than an int. -/
def leerEntero (bytes : Bytes) : Option Int :=
  if 4 ≤ bytes.length then some (entero (bytes.take 4)).toInt else none

/-- A value read as a string; none when no zero ends it. -/
def leerTexto (bytes : Bytes) : Option String :=
  if 0 ∈ bytes then some (textoDe (bytes.takeWhile (· ≠ 0))) else none

def enteroEn (lista : List Bytes) (i : Nat) : Option Int := (listGet lista i).bind leerEntero

def textoEn (lista : List Bytes) (i : Nat) : Option String := (listGet lista i).bind leerTexto

/-- What the type of a C value holds: an int of 32 bits, and chars of one byte but the zero. -/
def Cabe : Campo → Prop
  | .entero n => (BitVec.ofInt 32 n).toInt = n
  | .texto s => ∀ c ∈ s.toList, 0 < c.toNat ∧ c.toNat < 256
  | .bloque _ => True

instance : ∀ c, Decidable (Cabe c)
  | .entero n => inferInstanceAs (Decidable ((BitVec.ofInt 32 n).toInt = n))
  | .texto s => List.decidableBAll _ s.toList
  | .bloque _ => inferInstanceAs (Decidable True)

theorem cabe_nat {n : Nat} (h : n < 2 ^ 31) : Cabe (.entero n) :=
  BitVec.toInt_ofInt_eq_self (by decide) (by omega) (by omega)

theorem leerEntero_valor {n : Int} (fits : Cabe (.entero n)) :
    leerEntero (valor (.entero n)) = some n := by
  have four : (valor (.entero n)).length = 4 := length_bytesDe _
  have whole : (valor (.entero n)).take 4 = valor (.entero n) := List.take_of_length_le four.le
  rw [leerEntero, if_pos four.ge, whole, valor, entero_bytesDe]
  exact congrArg some fits

theorem textoDe_bytesDeTexto {s : String} (fits : Cabe (.texto s)) :
    textoDe (bytesDeTexto s) = s := by
  apply String.toList_inj.mp
  simp only [textoDe, bytesDeTexto, String.toList_ofList, List.map_map]
  refine (List.map_congr_left fun c hc => ?_).trans (List.map_id s.toList)
  have low : (UInt8.ofNat c.toNat).toNat = c.toNat := by
    rw [UInt8.toNat_ofNat', Nat.mod_eq_of_lt (fits c hc).2]
  simp [low]

theorem bytesDeTexto_sin_cero {s : String} (fits : Cabe (.texto s)) :
    ∀ b ∈ bytesDeTexto s, b ≠ 0 := by
  intro b hb
  obtain ⟨c, hc, rfl⟩ := List.mem_map.mp hb
  obtain ⟨pos, low⟩ := fits c hc
  intro zero
  have same : (UInt8.ofNat c.toNat).toNat = 0 := by rw [zero]; rfl
  rw [UInt8.toNat_ofNat', Nat.mod_eq_of_lt low] at same
  omega

theorem leerTexto_valor {s : String} (fits : Cabe (.texto s)) :
    leerTexto (valor (.texto s)) = some s := by
  have before : ∀ b ∈ bytesDeTexto s, decide (b ≠ 0) = true := fun b hb =>
    decide_eq_true (bytesDeTexto_sin_cero fits b hb)
  have cut : (valor (.texto s)).takeWhile (· ≠ 0) = bytesDeTexto s := by
    rw [valor, List.takeWhile_append_of_pos before]
    simp
  rw [leerTexto, if_pos (by simp [valor]), cut, textoDe_bytesDeTexto fits]

variable {m : Mensaje} {i : Nat}

theorem listGet_valores {c : Campo} (h : m.campos[i - 1]? = some c) :
    listGet (m.campos.map valor) i = some (valor c) := by
  rw [listGet, List.getElem?_map, h]
  rfl

theorem enteroEn_valores (fits : ∀ c ∈ m.campos, Cabe c) {n : Int} (h : m.entero i = some n) :
    enteroEn (m.campos.map valor) i = some n := by
  unfold Mensaje.entero at h
  split at h
  · rename_i n' field
    cases h
    rw [enteroEn, listGet_valores field, Option.bind_some,
      leerEntero_valor (fits _ (List.mem_of_getElem? field))]
  · contradiction

theorem textoEn_valores (fits : ∀ c ∈ m.campos, Cabe c) {s : String} (h : m.texto i = some s) :
    textoEn (m.campos.map valor) i = some s := by
  unfold Mensaje.texto at h
  split at h
  · rename_i s' field
    cases h
    rw [textoEn, listGet_valores field, Option.bind_some,
      leerTexto_valor (fits _ (List.mem_of_getElem? field))]
  · contradiction

theorem bloqueEn_valores {b : Bytes} (h : m.bloque i = some b) :
    listGet (m.campos.map valor) i = some b := by
  unfold Mensaje.bloque at h
  split at h
  · rename_i b' field
    cases h
    exact listGet_valores field
  · contradiction

def enviar (m : Mensaje) : Option Bytes :=
  enviarPaquete (armar (BitVec.ofNat 32 (numero m.codigo)) (m.campos.map valor))

def CabeMensaje (m : Mensaje) : Prop := total (m.campos.map valor) + 8 < 2 ^ 31

instance (m : Mensaje) : Decidable (CabeMensaje m) := inferInstanceAs (Decidable (_ < _))

def enSocket (m : Mensaje) : Bytes :=
  enLinea (BitVec.ofNat 32 (numero m.codigo)) (m.campos.map valor)

theorem enviar_enSocket (fits : CabeMensaje m) : enviar m = some (enSocket m) :=
  enviarPaquete_armar _ _ fits

theorem recibirPaquete_enSocket (fits : CabeMensaje m) (resto : Bytes) :
    recibirPaquete (enSocket m ++ resto) =
      (.valores (BitVec.ofNat 32 (numero m.codigo)) (m.campos.map valor), resto) := by
  have small : total (m.campos.map valor) < 2 ^ 31 := Nat.lt_of_add_right_lt fits
  exact recibirPaquete_enLinea _ _ resto small

end Valores
