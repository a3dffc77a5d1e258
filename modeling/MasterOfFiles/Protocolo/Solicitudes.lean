import MasterOfFiles.Storage.Estado

/-!
What a Worker and the thread of Storage that attends it say to each other: the op codes of
protocolo.h between the two, and the replies of rutina_operaciones.
-/
namespace Solicitudes
open StorageEstado

inductive CodigoOp where
  | storageGetBlockSize | storageCreateFile | storageReadBlock | storageWriteBlock
  | storageTruncate | storageTag | storageCommit | storageFlush | storageDelete
  | storageSendBlockSize
  | storageSendOkCreateFile | storageSendOkReadBlock | storageSendOkWriteBlock
  | storageSendOkTruncate | storageSendOkTag | storageSendOkCommit | storageSendOkDelete
  | storageSendOkFlush
  | storageSendErrorCreateFile | storageSendErrorReadBlock | storageSendErrorWriteBlock
  | storageSendErrorTruncate | storageSendErrorTag | storageSendErrorCommit
  | storageSendErrorDelete | storageSendErrorFlush
  deriving DecidableEq

inductive Campo where
  | entero (n : Int)
  | texto (s : String)
  | bloque (contenido : Bytes)
  deriving DecidableEq

structure Mensaje where
  codigo : CodigoOp
  campos : List Campo
  deriving DecidableEq

/-- list_size of what recibir_paquete returns: position 0 holds the op code. -/
def Mensaje.listSize (m : Mensaje) : Nat := m.campos.length + 1

def Mensaje.entero (m : Mensaje) (i : Nat) : Option Int :=
  match m.campos[i - 1]? with
  | some (.entero n) => some n
  | _ => none

def Mensaje.texto (m : Mensaje) (i : Nat) : Option String :=
  match m.campos[i - 1]? with
  | some (.texto s) => some s
  | _ => none

def Mensaje.bloque (m : Mensaje) (i : Nat) : Option Bytes :=
  match m.campos[i - 1]? with
  | some (.bloque b) => some b
  | _ => none

/-- What came of the operation of a request; `contenido` is the block of a read. -/
structure Resultado where
  exito : Bool
  contenido : Bytes

def responder (ok error : CodigoOp) (r : Resultado) : Option Mensaje :=
  some ⟨if r.exito then ok else error, []⟩

/-- One turn of the while loop of rutina_operaciones; an unknown op code gets no reply. -/
def rutinaOperaciones (tamanioBloque : Nat) (r : Resultado) (paquete : Mensaje) :
    Option Mensaje :=
  match paquete.codigo with
  | .storageGetBlockSize => some ⟨.storageSendBlockSize, [.entero tamanioBloque]⟩
  | .storageCreateFile => responder .storageSendOkCreateFile .storageSendErrorCreateFile r
  | .storageTruncate => responder .storageSendOkTruncate .storageSendErrorTruncate r
  | .storageTag => responder .storageSendOkTag .storageSendErrorTag r
  | .storageCommit => responder .storageSendOkCommit .storageSendErrorCommit r
  | .storageFlush => responder .storageSendOkFlush .storageSendErrorFlush r
  | .storageReadBlock =>
    if r.exito then some ⟨.storageSendOkReadBlock, [.bloque r.contenido]⟩
    else some ⟨.storageSendErrorReadBlock, []⟩
  | .storageWriteBlock => responder .storageSendOkWriteBlock .storageSendErrorWriteBlock r
  | .storageDelete => responder .storageSendOkDelete .storageSendErrorDelete r
  | _ => none

def codigosDe : CodigoOp → Option (CodigoOp × CodigoOp)
  | .storageCreateFile => some (.storageSendOkCreateFile, .storageSendErrorCreateFile)
  | .storageReadBlock => some (.storageSendOkReadBlock, .storageSendErrorReadBlock)
  | .storageWriteBlock => some (.storageSendOkWriteBlock, .storageSendErrorWriteBlock)
  | .storageTruncate => some (.storageSendOkTruncate, .storageSendErrorTruncate)
  | .storageTag => some (.storageSendOkTag, .storageSendErrorTag)
  | .storageCommit => some (.storageSendOkCommit, .storageSendErrorCommit)
  | .storageFlush => some (.storageSendOkFlush, .storageSendErrorFlush)
  | .storageDelete => some (.storageSendOkDelete, .storageSendErrorDelete)
  | _ => none

def EsDelTipo (pedido respuesta : Mensaje) : Prop :=
  ∃ codigos, codigosDe pedido.codigo = some codigos ∧
    (respuesta.codigo = codigos.1 ∨ respuesta.codigo = codigos.2)

theorem rutinaOperaciones_delTipo {tamanioBloque : Nat} {r : Resultado} {paquete : Mensaje}
    (kind : (codigosDe paquete.codigo).isSome = true) :
    ∃ respuesta, rutinaOperaciones tamanioBloque r paquete = some respuesta ∧
      EsDelTipo paquete respuesta := by
  obtain ⟨codigo, campos⟩ := paquete
  obtain ⟨exito, contenido⟩ := r
  cases codigo with
  | storageCreateFile | storageTruncate | storageTag | storageCommit | storageFlush
  | storageReadBlock | storageWriteBlock | storageDelete =>
    cases exito <;> simp [rutinaOperaciones, responder, EsDelTipo, codigosDe]
  | _ => simp [codigosDe] at kind

end Solicitudes
