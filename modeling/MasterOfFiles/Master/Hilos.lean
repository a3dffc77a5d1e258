import MasterOfFiles.Master.Manejo

/-!
The steps of the Master's threads. A step is one section between locks, one operation on a
semaphore or one message; it leaves the state as it is when its thread waits. A t_query that
was freed keeps its values here; Liberadas says which steps read one.
-/
namespace MasterHilos
open Mensajes MasterEstado MasterManejo

variable (config : Config)

/-- What atender_Worker does with the message, from the lookup in query_en_worker on. -/
def manejar (s : Master) (c : Nat) (q : Int) : Option Manejo → Master
  | none => s.pasaA c (.roto q)
  | some .desconocida => s.pasaA c (.abandonada q)
  | some (.lectura id programCounter respuesta) =>
    if id ∈ s.queryEnWorker then
      s.enQuery id fun t => { t with programCounter := programCounter }.responder respuesta
    else s.pasaA c (.roto q)
  | some (.completar id respuesta) =>
    if id ∈ s.queryEnWorker then
      { s with queryEnWorker := s.queryEnWorker.erase id }.pasaA c (.completando id respuesta)
    else s.pasaA c (.abandonada q)
  | some (.reencolar id nuevoPC) =>
    if id ∈ s.queryEnWorker then
      { s with queryEnWorker := s.queryEnWorker.erase id }.pasaA c (.reencolando id nuevoPC)
    else s.pasaA c (.esperaToken (s.conexiones c).id)
  | some (.desconectada id) =>
    if id ∈ s.queryEnWorker then
      ({ s with queryEnWorker := s.queryEnWorker.erase id }.enQuery id
        (Query.conEstado .exit)).pasaA c (.esperaToken (s.conexiones c).id)
    else s.pasaA c (.roto q)

/-- recibir_paquete gave NULL. -/
def workerSeFue (s : Master) (c : Nat) : Master :=
  match obtenerPorIdWorker s (s.conexiones c).id with
  | some o =>
    (s.enConexion o fun w => { w with desconexionWorker := w.desconexionWorker + 1 }).pasaA c .fin
  | none => s.pasaA c .fin

/-- No more messages come: the Worker's end is closed and nothing is left to read, or the
    Master closed its own end. -/
def Conexion.terminada (con : Conexion) : Bool :=
  con.socketCerrado || (con.cerrada && con.entrada.isEmpty)

def atenderWorker (s : Master) (c : Nat) (q : Int) : Master :=
  let con := s.conexiones c
  if Conexion.terminada con then workerSeFue s c
  else match con.entrada with
    | [] => s
    | m :: resto =>
      manejar (s.enConexion c fun con => { con with entrada := resto }) c q (manejo m)

def tomarDeCola (s : Master) : Option Int :=
  match config.algoritmo with
  | .fifo => s.colaQueries.head?
  | .prioridades => obtenerMenorPrioridad s s.colaQueries

def workerAssignQuery (q : Int) (t : Query) : Paquete :=
  ⟨.workerAssignQuery, [.entero q, .texto t.path, .entero t.prioridad, .entero t.programCounter]⟩

/-- The next step of the thread of a dispatch connection. -/
def despachar (s : Master) (c : Nat) : Master :=
  match (s.conexiones c).despachador with
  | .conectada => { s with cantidadWorkers := s.cantidadWorkers + 1 }.pasaA c .contada
  | .contada =>
    { s with listaWorkers := s.listaWorkers ++ [c] }.pasaA c (.esperaToken (s.conexiones c).id)
  | .esperaToken idWorker =>
    if s.semQueries = 0 then s
    else { s with semQueries := s.semQueries - 1 }.pasaA c (.conToken idWorker)
  | .conToken idWorker =>
    match obtenerPorIdWorker s (s.conexiones c).id with
    | none => s.pasaA c (.invalido none)
    | some o =>
      if (s.conexiones o).desconection then s.pasaA c (.invalido (some o))
      else s.pasaA c (.validado idWorker)
  | .invalido none => { s with semQueries := s.semQueries + 1 }.pasaA c .fin
  | .invalido (some o) =>
    ({ s with semQueries := s.semQueries + 1 }.enConexion o fun w =>
      { w with desconexionWorker := w.desconexionWorker + 1 }).pasaA c .fin
  | .validado idWorker =>
    match tomarDeCola config s with
    | none => s.pasaA c (.esperaToken idWorker)
    | some q =>
      { s with colaQueries := s.colaQueries.erase q }.pasaA c (.sosteniendo idWorker q)
  | .sosteniendo idWorker q =>
    (s.enQuery q (Query.conEstado .running)).pasaA c (.corriendo idWorker q)
  | .corriendo idWorker q =>
    ({ s with queryEnWorker := s.queryEnWorker ++ [q] }.enQuery q fun t =>
      { t with idWorker := idWorker }).pasaA c (.agregada idWorker q)
  | .agregada _ q =>
    s.enConexion c fun con =>
      { con with
        asignaciones := con.asignaciones ++ [workerAssignQuery q (s.queries q)]
        despachador := .atendiendo q }
  | .atendiendo q => atenderWorker s c q
  | .completando q respuesta =>
    (s.enQuery q fun t => (t.conEstado .exit).responder respuesta).pasaA c
      (.esperaToken (s.queries q).idWorker)
  | .reencolando q nuevoPC =>
    (s.enQuery q fun t => { t.conEstado .ready with programCounter := nuevoPC }).pasaA c
      (.encolando q)
  | .encolando q => { s with colaQueries := s.colaQueries ++ [q] }.pasaA c (.avisando q)
  | .avisando q =>
    ({ s with semQueries := s.semQueries + 1 }.enQuery q fun t =>
      match config.algoritmo with
      | .prioridades => { t with timerQuery := t.timerQuery + 1 }
      | .fifo => t).pasaA c (.esperaToken (s.conexiones c).id)
  | .ninguno | .abandonada _ | .roto _ | .fin => s

/-- The next step of the thread that watches a Worker's interruption socket. -/
def vigilar (s : Master) (c : Nat) : Master :=
  match (s.conexiones c).vigilante with
  | .vigilando o =>
    if (s.conexiones c).cerrada then
      (s.enConexion o fun w => { w with desconection := true, socketCerrado := true }).vigilantePasaA
        c (.marcado o)
    else s
  | .marcado o =>
    { s with cantidadWorkers := s.cantidadWorkers - 1 }.vigilantePasaA c (.descontado o)
  | .descontado o =>
    match obtenerQueryPorIdWorker s (s.conexiones o).id with
    | none => s.vigilantePasaA c (.esperando o)
    | some q => (s.enQuery q (Query.conEstado .exit)).vigilantePasaA c (.avisando o q)
  | .avisando o q =>
    (s.enQuery q (Query.responder ⟨.queryResponseErrorWorkerDesconectado,
      [.entero (s.conexiones o).id]⟩)).vigilantePasaA c (.esperando o)
  | .esperando o =>
    if (s.conexiones o).desconexionWorker = 0 then s
    else (s.enConexion o fun w =>
      { w with desconexionWorker := w.desconexionWorker - 1 }).vigilantePasaA c (.liberado o)
  | .liberado o =>
    { s with listaWorkers := eliminarWorkerPorId s (s.conexiones o).id }.vigilantePasaA c .terminado
  | .ninguno | .terminado => s

/-- WORKER_ID_INTERRUPT: the thread above is started for the Worker found by its id. -/
def atenderWorkerInterrupt (s : Master) (c : Nat) : Master :=
  match (s.conexiones c).vigilante, obtenerPorIdWorker s (s.conexiones c).id with
  | .ninguno, some o =>
    (s.enConexion o fun w => { w with conInterrupcion := true }).vigilantePasaA c (.vigilando o)
  | _, _ => s

/-- chequeador_desalojo up to its decision, which it takes with both mutexes held. -/
def chequeadorDesalojo (s : Master) (prioridad : Int) : Option Desalojo :=
  match s.queryEnWorker with
  | [] => none
  | q :: qs =>
    let queryMayor := maxPrioridad s q qs
    if (s.queryEnWorker.length : Int) = s.cantidadWorkers ∧
        prioridad < (s.queries queryMayor).prioridad then
      some ⟨queryMayor, (s.queries queryMayor).idWorker⟩
    else none

/-- The packet carries no id; the query it is for is kept beside it. -/
def realizarDesalojo (s : Master) (d : Desalojo) (codOp : OpCode) : Master :=
  match obtenerPorIdWorker s d.idWorker with
  | none => s
  | some o =>
    if (s.conexiones o).conInterrupcion then
      s.enConexion o fun w => { w with interrupciones := w.interrupciones ++ [(codOp, d.idQuery)] }
    else s

/-- A new Query Control: its query gets the next id. malloc leaves idWorker undefined. -/
def nuevaQuery (s : Master) (path : String) (prioridad basura : Int) : Master :=
  { s with
    idQuery := s.idQuery + 1
    queries := Function.update s.queries s.idQuery
      ⟨path, prioridad, 0, basura, .ready, true, 0, []⟩
    llegadas := Function.update s.llegadas s.idQuery .creada
    vigias := Function.update s.vigias s.idQuery .pendiente }

def atenderQuery (s : Master) (q : Int) : Master :=
  let pasa (s : Master) (l : Llegada) : Master :=
    { s with llegadas := Function.update s.llegadas q l }
  match s.llegadas q with
  | .creada => pasa { s with colaQueries := s.colaQueries ++ [q] } .encolada
  | .encolada =>
    match config.algoritmo with
    | .fifo => pasa s .porAvisar
    | .prioridades =>
      let s := { s with timers := Function.update s.timers q .durmiendo }
      match chequeadorDesalojo s (s.queries q).prioridad with
      | none => pasa s .porAvisar
      | some d => pasa s (.decidida d)
  | .decidida d => pasa (realizarDesalojo s d .workerDesalojo) .porAvisar
  | .porAvisar => pasa { s with semQueries := s.semQueries + 1 } .fin
  | .ninguna | .fin => s

/-- After the sleep the priority goes up by one and whoever runs may have to go; then the
    thread ends with the query, waits while it is not READY, or sleeps again. -/
def atenderTimerQuery (s : Master) (q : Int) : Master :=
  let pasa (s : Master) (t : Timer) : Master :=
    { s with timers := Function.update s.timers q t }
  let t := s.queries q
  let revisar : Master :=
    if !t.alive then pasa s .fin
    else if t.estado ≠ .ready ∨ config.tiempoAging = 0 then pasa s .esperando
    else pasa s .durmiendo
  match s.timers q with
  | .durmiendo =>
    if t.alive ∧ t.estado = .ready ∧ 0 < t.prioridad ∧ config.tiempoAging ≠ 0 then
      pasa (s.enQuery q fun t => { t with prioridad := t.prioridad - 1 })
        (.chequeando (t.prioridad - 1))
    else revisar
  | .chequeando prioridad =>
    match chequeadorDesalojo s prioridad with
    | none => pasa s .revisando
    | some d => pasa s (.decidido d)
  | .decidido d => pasa (realizarDesalojo s d .workerDesalojo) .revisando
  | .revisando => revisar
  | .esperando =>
    if t.timerQuery = 0 then s
    else pasa (s.enQuery q fun t => { t with timerQuery := t.timerQuery - 1 }) .durmiendo
  | .ninguno | .fin => s

/-- One look at the socket of the Query Control, and what follows if it is closed. The state
    and the Worker of the query are read without a lock, and it is freed wherever it is. -/
def atenderDesconexionQuery (s : Master) (q : Int) : Master :=
  let pasa (s : Master) (v : Vigia) : Master :=
    { s with vigias := Function.update s.vigias q v }
  let t := s.queries q
  match s.vigias q with
  | .pendiente =>
    if s.queryCerrada q then pasa (s.enQuery q fun t => { t with alive := false }) .avisada
    else pasa s .fin
  | .avisada =>
    if t.estado = .running then pasa s (.desalojando ⟨q, t.idWorker⟩) else pasa s .evaluada
  | .desalojando d => pasa (realizarDesalojo s d .workerQueryDesconectado) .evaluada
  | .evaluada =>
    if t.estado = .ready then
      pasa { s with colaQueries := s.colaQueries.erase q } .quitando
    else pasa s .saliendo
  | .quitando => pasa { s with semQueries := s.semQueries - 1 } .saliendo
  | .saliendo =>
    pasa (s.enQuery q fun t =>
      match config.algoritmo with
      | .prioridades => { t.conEstado .exit with timerQuery := t.timerQuery + 1 }
      | .fifo => t.conEstado .exit) .uniendo
  | .uniendo =>
    pasa s (match s.timers q with
      | .ninguno | .fin => .liberada
      | _ => .uniendo)
  | .ninguno | .liberada | .fin => s

inductive Evento where
  | conectaWorker (id : Int)
  | conectaInterrupcion (c : Nat)
  | cierraWorker (c : Nat)
  | reporta (c : Nat) (m : Paquete)
  | despacho (c : Nat)
  | vigilante (c : Nat)
  | llega (path : String) (prioridad basura : Int)
  | consulta (q : Int)
  | timer (q : Int)
  | cierraQuery (q : Int)
  | desconexion (q : Int)
  deriving DecidableEq, Repr

def conectarWorker (s : Master) (id : Int) : Master :=
  { s with
    cantidadConexiones := s.cantidadConexiones + 1
    conexiones := Function.update s.conexiones s.cantidadConexiones (.nueva id .conectada) }

/-- A Worker sends a report; with one that ends its assignment it has done with it. -/
def reportar (s : Master) (c : Nat) (m : Paquete) : Master :=
  s.enConexion c fun con =>
    { con with
      entrada := con.entrada ++ [m]
      asignaciones := if m.terminaAsignacion then con.asignaciones.tail else con.asignaciones }

def paso (s : Master) : Evento → Master
  | .conectaWorker id => conectarWorker s id
  | .conectaInterrupcion c => atenderWorkerInterrupt s c
  | .cierraWorker c => s.enConexion c fun con => { con with cerrada := true }
  | .reporta c m => reportar s c m
  | .despacho c => despachar config s c
  | .vigilante c => vigilar s c
  | .llega path prioridad basura => nuevaQuery s path prioridad basura
  | .consulta q => atenderQuery config s q
  | .timer q => atenderTimerQuery config s q
  | .cierraQuery q => { s with queryCerrada := Function.update s.queryCerrada q true }
  | .desconexion q => atenderDesconexionQuery config s q

def correr (s : Master) (es : List Evento) : Master := es.foldl (paso config) s

@[simp] theorem correr_nil (s : Master) : correr config s [] = s := rfl

@[simp] theorem correr_cons (s : Master) (e : Evento) (es : List Evento) :
    correr config s (e :: es) = correr config (paso config s e) es := rfl

theorem correr_append (s : Master) (es fs : List Evento) :
    correr config s (es ++ fs) = correr config (correr config s es) fs :=
  List.foldl_append

end MasterHilos
