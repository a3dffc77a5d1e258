import MasterOfFiles.Master.Estado
import MasterOfFiles.Worker.Informes

/-!
What atender_Worker reads of each message and means to do with it: the cases of its switch.
-/
namespace MasterManejo
open Mensajes MasterEstado
open WorkerInformes hiding readResult

inductive Manejo where
  /-- remove the query, set it to EXIT and send the response -/
  | completar (idQuery : Int) (respuesta : Paquete)
  | reencolar (idQuery : Int) (nuevoPC : Int)
  | desconectada (idQuery : Int)
  | lectura (idQuery : Int) (programCounter : Int) (respuesta : Paquete)
  | desconocida
  deriving DecidableEq, Repr

/-- The cases that take the second field for the faulty instruction. -/
def errorConInstruccion (respuesta : OpCode) (p : Paquete) : Option Manejo := do
  let idQuery ← p.entero 1
  let instruccion ← p.texto 2
  return .completar idQuery ⟨respuesta, [.texto instruccion]⟩

def errorConFileTag (respuesta : OpCode) (p : Paquete) : Option Manejo := do
  let idQuery ← p.entero 1
  let file ← p.texto 2
  let tag ← p.texto 3
  return .completar idQuery ⟨respuesta, [.texto file, .texto tag]⟩

/-- The cases that read the id only and send a fixed text. -/
def conTextoFijo (respuesta : OpCode) (texto : String) (p : Paquete) : Option Manejo := do
  let idQuery ← p.entero 1
  return .completar idQuery ⟨respuesta, [.texto texto]⟩

def readResult (p : Paquete) : Option Manejo := do
  let idQuery ← p.entero 1
  let contenido ← p.texto 2
  let file ← p.texto 3
  let tag ← p.texto 4
  let programCounter ← p.entero 5
  return .lectura idQuery programCounter
    ⟨.queryResponseRead, [.texto file, .texto tag, .texto contenido]⟩

def pcUpdate (p : Paquete) : Option Manejo := do
  let idQuery ← p.entero 2
  let nuevoPC ← p.entero 3
  return .reencolar idQuery nuevoPC

def queryDesconectado (p : Paquete) : Option Manejo := do
  let idQuery ← p.entero 2
  return .desconectada idQuery

/-- none: a payload that the packet does not have is read. -/
def manejo (p : Paquete) : Option Manejo :=
  match p.codigo with
  | .workerReadResult => readResult p
  | .workerQueryEnd => conTextoFijo .queryResponseEnd "Finalizacion Hardcodeada" p
  | .workerErrorInstruccionMalformada =>
    errorConInstruccion .queryResponseErrorErrorEnInstruccion p
  | .workerErrorModificarCommit => errorConFileTag .queryResponseErrorModificarCommit p
  | .workerErrorTamanioEscrituraExcedido =>
    errorConFileTag .queryResponseErrorTamanioEscrituraExcedido p
  | .workerPcUpdate => pcUpdate p
  | .workerQueryDesconectado => queryDesconectado p
  | .workerErrorTamanioLecturaExcedido =>
    errorConFileTag .queryResponseErrorTamanioLecturaExcedido p
  | .workerErrorCreate => errorConInstruccion .queryErrorCreate p
  | .workerErrorTruncate => errorConInstruccion .queryErrorTruncate p
  | .workerErrorWriteEnStorage => errorConInstruccion .queryErrorWriteEnStorage p
  | .workerErrorReadEnStorage => errorConInstruccion .queryErrorReadEnStorage p
  | .workerErrorTag => errorConInstruccion .queryErrorTag p
  | .workerErrorCommit => errorConInstruccion .queryErrorCommit p
  | .workerErrorDelete => errorConInstruccion .queryErrorDelete p
  | .workerErrorFlush => conTextoFijo .queryErrorFlush "Error flush" p
  | _ => some .desconocida

variable {q : Int} {m : Paquete}

theorem manejo_desenlace (h : Desenlace q m) :
    (∃ r, esTerminal r = true ∧ manejo m = some (.completar q r) ∧ m.codigo ≠ .workerPcUpdate ∧
      m.codigo ≠ .workerQueryDesconectado ∧ m.codigo ≠ .workerErrorQueryNoEncontrada) ∨
    (∃ pc, manejo m = some (.reencolar q pc) ∧ m.codigo = .workerPcUpdate) ∨
    (manejo m = some (.desconectada q) ∧ m.codigo = .workerQueryDesconectado) ∨
    manejo m = some .desconocida ∧ m.codigo = .workerErrorQueryNoEncontrada := by
  cases h with
  | noEncontrada path => exact .inr (.inr (.inr ⟨rfl, rfl⟩))
  | interrupcion desconectado nombre pc =>
    cases desconectado with
    | true => exact .inr (.inr (.inl ⟨rfl, rfl⟩))
    | false => exact .inr (.inl ⟨pc, rfl, rfl⟩)
  | _ => exact .inl ⟨_, rfl, rfl, nofun, nofun, nofun⟩

theorem manejo_readResult (p : Parametros) (q : Int) (contenido : String) (pc : Nat) :
    manejo (WorkerInformes.readResult p q contenido pc) = some (.lectura q pc
      ⟨.queryResponseRead, [.texto p.nombreFile, .texto p.tag, .texto contenido]⟩) := rfl

end MasterManejo
