import Mathlib.Data.List.Basic

/-!
Packets between the modules: an op code and its payloads, each a C int or a C string.
Only the op codes that the modelled functions build or read.
-/
namespace Mensajes

inductive OpCode where
  -- Master to Query Control
  | queryResponseRead | queryResponseEnd | queryResponseErrorWorkerDesconectado
  | queryResponseErrorErrorEnInstruccion | queryResponseErrorModificarCommit
  | queryResponseErrorTamanioEscrituraExcedido | queryResponseErrorTamanioLecturaExcedido
  | queryErrorCreate | queryErrorTruncate | queryErrorWriteEnStorage | queryErrorReadEnStorage
  | queryErrorTag | queryErrorCommit | queryErrorDelete | queryErrorFlush
  -- Master to Worker
  | workerAssignQuery | workerDesalojo
  -- both ways between Worker and Master
  | workerQueryDesconectado
  -- Worker to Master
  | workerPcUpdate | workerReadResult | workerQueryEnd
  | workerErrorInstruccionMalformada | workerErrorModificarCommit
  | workerErrorTamanioEscrituraExcedido | workerErrorTamanioLecturaExcedido
  | workerErrorDireccionInvalida | workerErrorQueryNoEncontrada
  | workerErrorCreate | workerErrorTruncate | workerErrorWriteEnStorage
  | workerErrorReadEnStorage | workerErrorTag | workerErrorCommit | workerErrorDelete
  | workerErrorFlush
  -- Storage to Worker
  | storageSendOkCreateFile | storageSendOkTruncate | storageSendOkTag | storageSendOkCommit
  | storageSendOkDelete | storageSendOkFlush
  | storageSendErrorCreateFile | storageSendErrorReadBlock | storageSendErrorWriteBlock
  | storageSendErrorTruncate | storageSendErrorTag | storageSendErrorCommit
  | storageSendErrorDelete | storageSendErrorFlush
  deriving DecidableEq, Repr

inductive Campo where
  | entero (n : Int)
  | texto (s : String)
  deriving DecidableEq, Repr

structure Paquete where
  codigo : OpCode
  campos : List Campo
  deriving DecidableEq, Repr

/-- list_get(paquete, i) read as an int: position 0 holds the op code. -/
def Paquete.entero (p : Paquete) (i : Nat) : Option Int :=
  match p.campos[i - 1]? with
  | some (.entero n) => some n
  | _ => none

def Paquete.texto (p : Paquete) (i : Nat) : Option String :=
  match p.campos[i - 1]? with
  | some (.texto t) => some t
  | _ => none

def OpCode.terminaAsignacion : OpCode → Bool
  | .workerQueryEnd | .workerPcUpdate | .workerQueryDesconectado
  | .workerErrorInstruccionMalformada | .workerErrorModificarCommit
  | .workerErrorTamanioEscrituraExcedido | .workerErrorTamanioLecturaExcedido
  | .workerErrorDireccionInvalida | .workerErrorQueryNoEncontrada
  | .workerErrorCreate | .workerErrorTruncate | .workerErrorWriteEnStorage
  | .workerErrorReadEnStorage | .workerErrorTag | .workerErrorCommit | .workerErrorDelete
  | .workerErrorFlush => true
  | _ => false

def Paquete.terminaAsignacion (p : Paquete) : Bool := p.codigo.terminaAsignacion

/-- The query a report is about: the third entry of the packet when the name of the query
    file comes first, else the second one. -/
def Paquete.queryId (p : Paquete) : Option Int :=
  if p.codigo = .workerPcUpdate ∨ p.codigo = .workerQueryDesconectado then p.entero 2
  else p.entero 1

end Mensajes
