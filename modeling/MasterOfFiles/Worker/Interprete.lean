import MasterOfFiles.Worker.Informes

/-!
The two threads of a Worker: ejecutar_query, which runs the assigned query line by line, and
the one that takes interruptions. A step of the first ends where it waits for another process
or looks at a flag that the second one writes. What the pages hold is left to the environment.
-/
namespace WorkerInterprete
open Mensajes WorkerInformes

inductive Instruccion where
  | create | truncate | write | read | tag | commit | flush | delete
  deriving DecidableEq, Repr

/-- t_decode for one line of the query file that is neither blank nor a comment. -/
inductive Decode where
  | fin
  | malformada (instruccion : String)
  | ejecuta (instruccion : Instruccion) (parametros : Parametros)
  deriving DecidableEq, Repr

/-- archivo holds the lines that getline has not returned yet. -/
structure Pcb where
  archivo : List Decode
  nombreArchivo : String
  queryId : Int
  pc : Nat
  deriving DecidableEq, Repr

/-- The requests whose reply rtas_storage reads. -/
inductive PedidoStorage where
  | createFile | truncate | tag | commit | delete | flush
  deriving DecidableEq, Repr

inductive Hilo where
  | esperando
  | ciclo (pcb : Pcb)
  | respuesta (pcb : Pcb) (parametros : Parametros) (pedido : PedidoStorage)
      (despues : List PedidoStorage)
  | acceso (pcb : Pcb) (parametros : Parametros) (esEscritura : Bool) (paginas : Nat)
      (leido : String)
  | chequeo (pcb : Pcb)
  deriving DecidableEq, Repr

/-- avisada: the interruption thread has read a packet and not raised the flag yet.
    enviados: what was sent for the current assignment; cerradas: the assignments left, each
    with its query id and what was sent for it; salida: what is still on the way. -/
structure Worker where
  errorStorage : Bool
  hayInterrupcion : Bool
  queryDesconectado : Bool
  avisada : Bool
  pc : Nat
  hilo : Hilo
  enviados : List Paquete
  cerradas : List (Int × List Paquete)
  salida : List Paquete
  deriving DecidableEq, Repr

def workerInicial : Worker := ⟨false, false, false, false, 0, .esperando, [], [], []⟩

inductive Evento where
  | asignacion (queryId : Int) (path : String) (pc : Nat)
  | avance
  | respuesta (ok : Bool)
  | pagina (contenido : Option String)
  | interrupcion (desconectado : Bool)
  | marca
  deriving DecidableEq, Repr

def Worker.enviar (w : Worker) (m : Paquete) : Worker :=
  { w with enviados := w.enviados ++ [m], salida := w.salida ++ [m] }

def Worker.dejar (w : Worker) (queryId : Int) : Worker :=
  { w with hilo := .esperando, cerradas := w.cerradas ++ [(queryId, w.enviados)], enviados := [] }

def PedidoStorage.codigoRespuesta : PedidoStorage → Bool → OpCode
  | .createFile, ok => if ok then .storageSendOkCreateFile else .storageSendErrorCreateFile
  | .truncate, ok => if ok then .storageSendOkTruncate else .storageSendErrorTruncate
  | .tag, ok => if ok then .storageSendOkTag else .storageSendErrorTag
  | .commit, ok => if ok then .storageSendOkCommit else .storageSendErrorCommit
  | .delete, ok => if ok then .storageSendOkDelete else .storageSendErrorDelete
  | .flush, ok => if ok then .storageSendOkFlush else .storageSendErrorFlush

/-- The report rtas_storage sends after raising error_storage, when the reply is an error. -/
def informeDeRespuesta (p : Parametros) (queryId : Int) : OpCode → Option Paquete
  | .storageSendErrorCreateFile => some (informarErrorCreate p queryId)
  | .storageSendErrorTruncate => some (informarErrorTruncate p queryId)
  | .storageSendErrorWriteBlock => some (informarErrorWrite queryId)
  | .storageSendErrorReadBlock => some (informarErrorRead queryId)
  | .storageSendErrorTag => some (informarErrorTag p queryId)
  | .storageSendErrorCommit => some (informarErrorCommit p queryId)
  | .storageSendErrorDelete => some (informarErrorDelete p queryId)
  | .storageSendErrorFlush => some (informarErrorFlush queryId)
  | _ => none

def rtasStorage (w : Worker) (p : Parametros) (queryId : Int) (codOp : OpCode) : Worker :=
  match informeDeRespuesta p queryId codOp with
  | none => w
  | some informe => { w with errorStorage := true }.enviar informe

/-- The first fetch of a query that comes back skips the lines already run. -/
def fetch (pcb : Pcb) (pc : Nat) : Decode × List Decode :=
  match if pcb.pc ≠ 0 ∧ pc = pcb.pc then pcb.archivo.drop pcb.pc else pcb.archivo with
  | [] => (.fin, [])
  | linea :: resto => (linea, resto)

/-- num_pagina_final - num_pagina_inicial + 1, and nothing to do for a size of 0. -/
def paginasDeAcceso (tamanioPagina offset tam : Nat) : Nat :=
  if tam = 0 then 0 else (offset + tam - 1) / tamanioPagina - offset / tamanioPagina + 1

def accederMemoria (tamanioPagina : Nat) (pcb : Pcb) (p : Parametros) (esEscritura : Bool)
    (tam : Nat) : Hilo :=
  match paginasDeAcceso tamanioPagina p.direccionBase tam with
  | 0 => .chequeo pcb
  | paginas + 1 => .acceso pcb p esEscritura (paginas + 1) ""

/-- The execute functions up to the first message they wait for. A COMMIT is a flush whose
    reply is read, whatever it says, before the commit is asked for. -/
def execute (tamanioPagina : Nat) (pcb : Pcb) (p : Parametros) : Instruccion → Hilo
  | .create => .respuesta pcb p .createFile []
  | .truncate => .respuesta pcb p .truncate []
  | .write => accederMemoria tamanioPagina pcb p true p.contenido.utf8ByteSize
  | .read => accederMemoria tamanioPagina pcb p false p.tamanio.toNat
  | .tag => .respuesta pcb p .tag []
  | .commit => .respuesta pcb p .flush [.commit]
  | .flush => .respuesta pcb p .flush []
  | .delete => .respuesta pcb p .delete []

/-- One turn of query_interpreter_ciclo from its head. -/
def queryInterpreterCiclo (tamanioPagina : Nat) (w : Worker) (pcb : Pcb) : Worker :=
  if w.errorStorage then { w with errorStorage := false }.dejar pcb.queryId
  else
    let (linea, resto) := fetch pcb w.pc
    let w := { w with pc := w.pc + 1 }
    match linea with
    | .fin => (w.enviar (avisoEndQuery pcb.queryId)).dejar pcb.queryId
    | .malformada instruccion =>
      (w.enviar (errorInstruccionMalformada pcb.queryId instruccion)).dejar pcb.queryId
    | .ejecuta i p => { w with hilo := execute tamanioPagina { pcb with archivo := resto } p i }

def checkInterrupt (w : Worker) (pcb : Pcb) : Worker :=
  if w.hayInterrupcion then
    ({ w with hayInterrupcion := false }.enviar
      (interruptEnvioAMaster w.queryDesconectado pcb.nombreArchivo pcb.queryId w.pc)).dejar
        pcb.queryId
  else { w with hilo := .ciclo pcb }

/-- A page of the access is there, or Storage rejects its load and the access stops. -/
def accesoAPagina (w : Worker) (pcb : Pcb) (p : Parametros) (esEscritura : Bool)
    (paginas : Nat) (leido : String) : Option String → Worker
  | none =>
    { w with errorStorage := true, hilo := .chequeo pcb }.enviar
      (errorTamanioEscrLecturaExcedido
        (if esEscritura then .workerErrorTamanioEscrituraExcedido
          else .workerErrorTamanioLecturaExcedido) pcb.queryId p.nombreFile p.tag)
  | some contenido =>
    if 1 < paginas then
      { w with hilo := .acceso pcb p esEscritura (paginas - 1) (leido ++ contenido) }
    else if esEscritura then { w with hilo := .chequeo pcb }
    else { w with hilo := .chequeo pcb }.enviar
      (readResult p pcb.queryId (leido ++ contenido) w.pc)

def leerRespuesta (w : Worker) (pcb : Pcb) (p : Parametros) (pedido : PedidoStorage)
    (despues : List PedidoStorage) (ok : Bool) : Worker :=
  let w := rtasStorage w p pcb.queryId (pedido.codigoRespuesta ok)
  match despues with
  | [] => { w with hilo := .chequeo pcb }
  | siguiente :: resto => { w with hilo := .respuesta pcb p siguiente resto }

/-- archivos: what fopen finds under path_scripts. An event that its thread is not waiting
    for leaves the Worker as it is. -/
def paso (archivos : String → Option (List Decode)) (tamanioPagina : Nat) (w : Worker) :
    Evento → Worker
  | .asignacion queryId path pc =>
    match w.hilo, archivos path with
    | .esperando, none => (w.enviar (errorPathNotFound queryId path)).dejar queryId
    | .esperando, some lineas => { w with hilo := .ciclo ⟨lineas, path, queryId, pc⟩, pc := pc }
    | _, _ => w
  | .avance =>
    match w.hilo with
    | .ciclo pcb => queryInterpreterCiclo tamanioPagina w pcb
    | .chequeo pcb => checkInterrupt w pcb
    | _ => w
  | .respuesta ok =>
    match w.hilo with
    | .respuesta pcb p pedido despues => leerRespuesta w pcb p pedido despues ok
    | _ => w
  | .pagina contenido =>
    match w.hilo with
    | .acceso pcb p esEscritura paginas leido =>
      accesoAPagina w pcb p esEscritura paginas leido contenido
    | _ => w
  | .interrupcion desconectado =>
    if w.avisada then w else { w with queryDesconectado := desconectado, avisada := true }
  | .marca => if w.avisada then { w with hayInterrupcion := true, avisada := false } else w

end WorkerInterprete
