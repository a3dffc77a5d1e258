import Mathlib.Logic.Function.Basic
import MasterOfFiles.Protocolo.Mensajes

/-!
The state of the Master: its lists, semaphores and counters, and where each of its threads
is. A query stands for its id, a Worker for the number of its dispatch connection.
-/
namespace MasterEstado
open Mensajes

inductive Algoritmo where
  | fifo | prioridades
  deriving DecidableEq, Repr

structure Config where
  algoritmo : Algoritmo
  tiempoAging : Nat

inductive EstadoQuery where
  | ready | running | exit
  deriving DecidableEq, Repr

/-- t_query; respuestas is what was sent on the socket of its Query Control. -/
structure Query where
  path : String
  prioridad : Int
  programCounter : Int
  idWorker : Int
  estado : EstadoQuery
  alive : Bool
  timerQuery : Nat
  respuestas : List Paquete

/-- The thread of a Worker's dispatch connection: atender_Worker and comenzar_a_ejecutar,
    which call each other. The query in atendiendo, abandonada and roto is the last one sent. -/
inductive Despachador where
  | ninguno
  | conectada
  | contada
  | esperaToken (idWorker : Int)
  | conToken (idWorker : Int)
  | invalido (worker : Option Nat)
  | validado (idWorker : Int)
  | sosteniendo (idWorker : Int) (query : Int)
  | corriendo (idWorker : Int) (query : Int)
  | agregada (idWorker : Int) (query : Int)
  | atendiendo (query : Int)
  | completando (query : Int) (respuesta : Paquete)
  | reencolando (query : Int) (programCounter : Int)
  | encolando (query : Int)
  | avisando (query : Int)
  /-- atender_Worker returned without going back to comenzar_a_ejecutar. -/
  | abandonada (query : Int)
  /-- It read a field that the packet lacks, or a query that it did not find. -/
  | roto (query : Int)
  | fin
  deriving DecidableEq, Repr

/-- atender_desconexion_worker, for the Worker found when the interruption socket came. -/
inductive Vigilante where
  | ninguno
  | vigilando (worker : Nat)
  | marcado (worker : Nat)
  | descontado (worker : Nat)
  | avisando (worker : Nat) (query : Int)
  | esperando (worker : Nat)
  | liberado (worker : Nat)
  | terminado
  deriving DecidableEq, Repr

structure Desalojo where
  idQuery : Int
  idWorker : Int
  deriving DecidableEq, Repr

/-- atender_Query -/
inductive Llegada where
  | ninguna | creada | encolada | decidida (d : Desalojo) | porAvisar | fin
  deriving DecidableEq, Repr

/-- atender_timer_query -/
inductive Timer where
  | ninguno | durmiendo | chequeando (prioridad : Int) | decidido (d : Desalojo) | revisando
  | esperando | fin
  deriving DecidableEq, Repr

/-- atender_desconexion_query; uniendo: in pthread_join, liberada: path and t_query are freed. -/
inductive Vigia where
  | ninguno | pendiente | avisada | desalojando (d : Desalojo) | evaluada | quitando | saliendo
  | uniendo | liberada | fin
  deriving DecidableEq, Repr

/-- t_worker and the threads and sockets of one Worker. entrada: reports on their way to the
    Master; asignaciones: assignments it sent that the Worker has not done with;
    interrupciones: those on their way, each with the query it was issued for. -/
structure Conexion where
  id : Int
  despachador : Despachador
  vigilante : Vigilante
  desconection : Bool
  desconexionWorker : Nat
  conInterrupcion : Bool
  cerrada : Bool
  socketCerrado : Bool
  entrada : List Paquete
  asignaciones : List Paquete
  interrupciones : List (OpCode × Int)

def Conexion.nueva (id : Int) (despachador : Despachador) : Conexion :=
  ⟨id, despachador, .ninguno, false, 0, false, false, false, [], [], []⟩

structure Master where
  idQuery : Int
  queries : Int → Query
  colaQueries : List Int
  queryEnWorker : List Int
  semQueries : Nat
  cantidadWorkers : Int
  listaWorkers : List Nat
  cantidadConexiones : Nat
  conexiones : Nat → Conexion
  llegadas : Int → Llegada
  timers : Int → Timer
  vigias : Int → Vigia
  queryCerrada : Int → Bool

def masterInicial : Master where
  idQuery := 0
  queries := fun _ => ⟨"", 0, 0, 0, .ready, false, 0, []⟩
  colaQueries := []
  queryEnWorker := []
  semQueries := 0
  cantidadWorkers := 0
  listaWorkers := []
  cantidadConexiones := 0
  conexiones := fun _ => .nueva 0 .ninguno
  llegadas := fun _ => .ninguna
  timers := fun _ => .ninguno
  vigias := fun _ => .ninguno
  queryCerrada := fun _ => false

def Master.enConexion (s : Master) (c : Nat) (f : Conexion → Conexion) : Master :=
  { s with conexiones := Function.update s.conexiones c (f (s.conexiones c)) }

def Master.enQuery (s : Master) (q : Int) (f : Query → Query) : Master :=
  { s with queries := Function.update s.queries q (f (s.queries q)) }

def Master.pasaA (s : Master) (c : Nat) (d : Despachador) : Master :=
  s.enConexion c fun con => { con with despachador := d }

def Master.vigilantePasaA (s : Master) (c : Nat) (v : Vigilante) : Master :=
  s.enConexion c fun con => { con with vigilante := v }

def Query.responder (respuesta : Paquete) (q : Query) : Query :=
  { q with respuestas := q.respuestas ++ [respuesta] }

def Query.conEstado (estado : EstadoQuery) (q : Query) : Query := { q with estado := estado }

def esTerminal (m : Paquete) : Bool := m.codigo ≠ .queryResponseRead

def obtenerPorIdWorker (s : Master) (id : Int) : Option Nat :=
  s.listaWorkers.find? fun o => (s.conexiones o).id = id

def eliminarWorkerPorId (s : Master) (id : Int) : List Nat :=
  s.listaWorkers.eraseP fun o => (s.conexiones o).id = id

def obtenerQueryPorIdWorker (s : Master) (id : Int) : Option Int :=
  s.queryEnWorker.find? fun q => (s.queries q).idWorker = id

def obtenerMenorPrioridad (s : Master) : List Int → Option Int
  | [] => none
  | q :: qs => some (qs.foldl
      (fun minQuery actual =>
        if (s.queries actual).prioridad < (s.queries minQuery).prioridad then actual
        else minQuery) q)

def maxPrioridad (s : Master) (q : Int) (qs : List Int) : Int :=
  qs.foldl (fun a b =>
    if (s.queries b).prioridad ≤ (s.queries a).prioridad then a else b) q

end MasterEstado
