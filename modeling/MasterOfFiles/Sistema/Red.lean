import MasterOfFiles.Master.Marcos
import MasterOfFiles.Worker.Pasos

/-!
The Master and its Workers together, with the messages on the dispatch and the interruption
sockets. What Storage answers a Worker comes from outside.
-/
namespace SistemaRed
open Mensajes MasterEstado MasterHilos WorkerInterprete WorkerPasos

/-- For each Worker, beside its state, the query that the interruption it has just read was
    issued for and those of the interruptions its flag is up for. salidas: each query left
    because of the flag, with the latter. -/
structure Sistema where
  master : Master
  workers : Nat → Worker
  leida : Nat → Option Int
  origenes : Nat → List Int
  salidas : List (Int × List Int)

def inicial : Sistema where
  master := masterInicial
  workers := fun _ => workerInicial
  leida := fun _ => none
  origenes := fun _ => []
  salidas := []

inductive Evento where
  | master (e : MasterHilos.Evento)
  | asigna (c : Nat)
  | avance (c : Nat)
  | respuesta (c : Nat) (ok : Bool)
  | pagina (c : Nat) (contenido : Option String)
  | interrumpe (c : Nat)
  | marca (c : Nat)
  deriving DecidableEq, Repr

/-- recibir_path_de_query: the id, the path, the priority and the pc. -/
def leerAsignacion (p : Paquete) : Option WorkerInterprete.Evento := do
  let queryId ← p.entero 1
  let path ← p.texto 2
  let pc ← p.entero 4
  return .asignacion queryId path pc.toNat

def ejecucion (S : Sistema) : Evento → Option (Nat × WorkerInterprete.Evento)
  | .asigna c => do
    let a ← (S.master.conexiones c).asignaciones.head?
    let e ← leerAsignacion a
    return (c, e)
  | .avance c => some (c, .avance)
  | .respuesta c ok => some (c, .respuesta ok)
  | .pagina c contenido => some (c, .pagina contenido)
  | _ => none

variable (config : Config) (archivos : Nat → String → Option (List Decode)) (tamanioPagina : Nat)

/-- What the Worker has sent is on its way, and an assignment it has left is done with. -/
def entregar (s : Master) (c : Nat) (w w' : Worker) : Master :=
  s.enConexion c fun con =>
    { con with
      entrada := con.entrada ++ w'.salida
      asignaciones :=
        if w'.cerradas.length = w.cerradas.length then con.asignaciones
        else con.asignaciones.tail }

def ejecutar (S : Sistema) (c : Nat) (e : WorkerInterprete.Evento) : Sistema :=
  let w := S.workers c
  let w' := WorkerInterprete.paso (archivos c) tamanioPagina w e
  let S' := { S with
    master := entregar S.master c w w'
    workers := Function.update S.workers c { w' with salida := [] } }
  match interrumpida w e with
  | none => S'
  | some q =>
    { S' with
      origenes := Function.update S.origenes c []
      salidas := S.salidas ++ [(q, S.origenes c)] }

section
variable (S : Sistema) (c : Nat) (e : WorkerInterprete.Evento)

theorem ejecutar_workers : (ejecutar archivos tamanioPagina S c e).workers =
    Function.update S.workers c
      { WorkerInterprete.paso (archivos c) tamanioPagina (S.workers c) e with salida := [] } := by
  unfold ejecutar
  dsimp only
  split <;> rfl

theorem ejecutar_master : (ejecutar archivos tamanioPagina S c e).master =
    entregar S.master c (S.workers c)
      (WorkerInterprete.paso (archivos c) tamanioPagina (S.workers c) e) := by
  unfold ejecutar
  dsimp only
  split <;> rfl

theorem ejecutar_leida : (ejecutar archivos tamanioPagina S c e).leida = S.leida := by
  unfold ejecutar
  dsimp only
  split <;> rfl

theorem ejecutar_origenes (o : Nat) : (ejecutar archivos tamanioPagina S c e).origenes o =
    if o = c ∧ (interrumpida (S.workers c) e).isSome then [] else S.origenes o := by
  unfold ejecutar
  dsimp only
  split
  · next libre => simp [libre]
  · next q sale => simp [sale, Function.update_apply]

theorem ejecutar_salidas : (ejecutar archivos tamanioPagina S c e).salidas =
    S.salidas ++ ((interrumpida (S.workers c) e).toList.map fun q => (q, S.origenes c)) := by
  unfold ejecutar
  dsimp only
  split
  · next libre => simp [libre]
  · next q sale => simp [sale]

end

/-- recibir_interrupciones: which kind it is, not for which query. -/
def interrumpir (S : Sistema) (c : Nat) : Sistema :=
  match (S.master.conexiones c).interrupciones with
  | [] => S
  | (codigo, q) :: resto =>
    if (S.workers c).avisada then S
    else
      { S with
        master := S.master.enConexion c fun con => { con with interrupciones := resto }
        workers := Function.update S.workers c (WorkerInterprete.paso (archivos c) tamanioPagina
          (S.workers c) (.interrupcion (codigo = .workerQueryDesconectado)))
        leida := Function.update S.leida c (some q) }

def marcar (S : Sistema) (c : Nat) : Sistema :=
  if (S.workers c).avisada then
    { S with
      workers := Function.update S.workers c
        (WorkerInterprete.paso (archivos c) tamanioPagina (S.workers c) .marca)
      leida := Function.update S.leida c none
      origenes := Function.update S.origenes c (S.origenes c ++ (S.leida c).toList) }
  else S

/-- A Worker that connects has just started; its reports come from its own steps. -/
def pasoMaster (S : Sistema) : MasterHilos.Evento → Sistema
  | .reporta _ _ => S
  | .conectaWorker id =>
    { S with
      master := conectarWorker S.master id
      workers := Function.update S.workers S.master.cantidadConexiones workerInicial
      leida := Function.update S.leida S.master.cantidadConexiones none
      origenes := Function.update S.origenes S.master.cantidadConexiones [] }
  | e => { S with master := MasterHilos.paso config S.master e }

def paso (S : Sistema) (e : Evento) : Sistema :=
  match ejecucion S e with
  | some (c, e) => ejecutar archivos tamanioPagina S c e
  | none =>
    match e with
    | .master e => pasoMaster config S e
    | .interrumpe c => interrumpir archivos tamanioPagina S c
    | .marca c => marcar archivos tamanioPagina S c
    | _ => S

end SistemaRed
