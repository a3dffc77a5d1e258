import MasterOfFiles.Protocolo.Mensajes

/-!
The messages a Worker sends to the Master, one builder for each function of the source.
-/
namespace WorkerInformes
open Mensajes

/-- t_instr_param, of an instruction without a negative offset; calloc leaves the fields it does
    not use at zero. -/
structure Parametros where
  nombreFile : String := ""
  tag : String := ""
  tamanio : Int := 0
  direccionBase : Nat := 0
  contenido : String := ""
  nombreFileOrg : String := ""
  tagOrigen : String := ""
  nombreFileDestino : String := ""
  tagDestino : String := ""
  deriving DecidableEq, Repr

def errorPathNotFound (idQuery : Int) (path : String) : Paquete :=
  ⟨.workerErrorQueryNoEncontrada, [.entero idQuery, .texto path]⟩

def errorInstruccionMalformada (idQuery : Int) (instruccion : String) : Paquete :=
  ⟨.workerErrorInstruccionMalformada, [.entero idQuery, .texto instruccion]⟩

def errorFileTag (etiqueta : OpCode) (idQuery : Int) (file tag : String) : Paquete :=
  ⟨etiqueta, [.entero idQuery, .texto file, .texto tag]⟩

def errorTamanioEscrLecturaExcedido (etiqueta : OpCode) (idQuery : Int) (file tag : String) :
    Paquete :=
  errorFileTag etiqueta idQuery file tag

def informarErrorCreate (p : Parametros) (idQuery : Int) : Paquete :=
  errorFileTag .workerErrorCreate idQuery p.nombreFile p.tag

def informarErrorTruncate (p : Parametros) (idQuery : Int) : Paquete :=
  ⟨.workerErrorTruncate,
    [.entero idQuery, .texto p.nombreFile, .texto p.tag, .entero p.tamanio]⟩

def informarErrorWrite (idQuery : Int) : Paquete :=
  ⟨.workerErrorWriteEnStorage, [.entero idQuery]⟩

def informarErrorRead (idQuery : Int) : Paquete :=
  ⟨.workerErrorReadEnStorage, [.entero idQuery]⟩

def informarErrorTag (p : Parametros) (idQuery : Int) : Paquete :=
  ⟨.workerErrorTag, [.entero idQuery, .texto p.nombreFileOrg, .texto p.tagOrigen,
    .texto p.nombreFileDestino, .texto p.tagDestino]⟩

def informarErrorCommit (p : Parametros) (idQuery : Int) : Paquete :=
  errorFileTag .workerErrorCommit idQuery p.nombreFile p.tag

def informarErrorDelete (p : Parametros) (idQuery : Int) : Paquete :=
  errorFileTag .workerErrorDelete idQuery p.nombreFile p.tag

def informarErrorFlush (idQuery : Int) : Paquete :=
  ⟨.workerErrorFlush, [.entero idQuery]⟩

def avisoEndQuery (idQuery : Int) : Paquete := ⟨.workerQueryEnd, [.entero idQuery]⟩

def readResult (p : Parametros) (idQuery : Int) (contenido : String) (pc : Nat) : Paquete :=
  ⟨.workerReadResult, [.entero idQuery, .texto contenido, .texto p.nombreFile, .texto p.tag,
    .entero pc]⟩

/-- interrupt_envio_a_master: both kinds carry the path, the id and the pc reached. -/
def interruptEnvioAMaster (queryDesconectado : Bool) (nombreArchivo : String)
    (idQuery : Int) (pc : Nat) : Paquete :=
  ⟨if queryDesconectado then .workerQueryDesconectado else .workerPcUpdate,
    [.texto nombreArchivo, .entero idQuery, .entero pc]⟩

/-- The messages that the Worker's code can end the assignment of a query with. -/
inductive Desenlace (idQuery : Int) : Paquete → Prop
  | noEncontrada (path : String) : Desenlace idQuery (errorPathNotFound idQuery path)
  | malformada (instruccion : String) :
      Desenlace idQuery (errorInstruccionMalformada idQuery instruccion)
  | tamanioEscritura (file tag : String) : Desenlace idQuery
      (errorTamanioEscrLecturaExcedido .workerErrorTamanioEscrituraExcedido idQuery file tag)
  | tamanioLectura (file tag : String) : Desenlace idQuery
      (errorTamanioEscrLecturaExcedido .workerErrorTamanioLecturaExcedido idQuery file tag)
  | create (p : Parametros) : Desenlace idQuery (informarErrorCreate p idQuery)
  | truncate (p : Parametros) : Desenlace idQuery (informarErrorTruncate p idQuery)
  | tag (p : Parametros) : Desenlace idQuery (informarErrorTag p idQuery)
  | commit (p : Parametros) : Desenlace idQuery (informarErrorCommit p idQuery)
  | delete (p : Parametros) : Desenlace idQuery (informarErrorDelete p idQuery)
  | flush : Desenlace idQuery (informarErrorFlush idQuery)
  | fin : Desenlace idQuery (avisoEndQuery idQuery)
  | interrupcion (queryDesconectado : Bool) (nombreArchivo : String) (pc : Nat) :
      Desenlace idQuery (interruptEnvioAMaster queryDesconectado nombreArchivo idQuery pc)

variable {idQuery : Int} {m : Paquete}

theorem desenlace_queryId (h : Desenlace idQuery m) : m.queryId = some idQuery := by
  cases h with
  | interrupcion desconectado nombre pc => cases desconectado <;> rfl
  | _ => rfl

theorem desenlace_terminaAsignacion (h : Desenlace idQuery m) : m.terminaAsignacion = true := by
  cases h with
  | interrupcion desconectado nombre pc => cases desconectado <;> rfl
  | _ => rfl

theorem readResult_continues (p : Parametros) (idQuery : Int) (contenido : String) (pc : Nat) :
    (readResult p idQuery contenido pc).terminaAsignacion = false := rfl

end WorkerInformes
