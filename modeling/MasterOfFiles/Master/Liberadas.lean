import MasterOfFiles.Master.Hilos

/-!
Which t_query a step of the Master reads, and the runs that read none that
atender_desconexion_query has freed. What a thread does with freed memory is not determined, so
such a run ends there.
-/
namespace MasterLiberadas
open Mensajes MasterEstado MasterManejo MasterHilos

variable (config : Config)

/-- list_find and list_remove_by_condition read the list up to the first that matches. -/
def hasta (coincide : Int → Bool) : List Int → List Int
  | [] => []
  | q :: qs => if coincide q then [q] else q :: hasta coincide qs

def idBuscado : Manejo → Option Int
  | .completar id _ | .reencolar id _ | .desconectada id | .lectura id _ _ => some id
  | .desconocida => none

def usaAtenderWorker (s : Master) (con : Conexion) : List Int :=
  if Conexion.terminada con then []
  else match (con.entrada.head?.bind manejo).bind idBuscado with
    | none => []
    | some id => hasta (· = id) s.queryEnWorker

def usaDespachador (s : Master) (c : Nat) : List Int :=
  match (s.conexiones c).despachador, config.algoritmo with
  | .validado _, .prioridades => if s.colaQueries.length < 2 then [] else s.colaQueries
  | .sosteniendo _ q, _ | .corriendo _ q, _ | .agregada _ q, _ => [q]
  | .completando q _, _ | .reencolando q _, _ | .avisando q, .prioridades => [q]
  | .atendiendo _, _ => usaAtenderWorker s (s.conexiones c)
  | _, _ => []

def usaVigilante (s : Master) (c : Nat) : List Int :=
  match (s.conexiones c).vigilante with
  | .descontado o =>
    hasta (fun q => (s.queries q).idWorker = (s.conexiones o).id) s.queryEnWorker
  | .avisando _ q => [q]
  | _ => []

def usaConsulta (s : Master) (q : Int) : List Int :=
  match s.llegadas q, config.algoritmo with
  | .creada, _ => [q]
  | .encolada, .prioridades => q :: s.queryEnWorker
  | _, _ => []

def usaTimer (s : Master) (q : Int) : List Int :=
  match s.timers q with
  | .durmiendo | .revisando | .esperando => [q]
  | .chequeando _ => s.queryEnWorker
  | _ => []

/-- Besides its own, which no other thread frees. -/
def usaDesconexion (s : Master) (q : Int) : List Int :=
  if s.vigias q = .evaluada ∧ (s.queries q).estado = .ready then hasta (· = q) s.colaQueries
  else []

/-- Every t_query that the step dereferences. -/
def usa (s : Master) : Evento → List Int
  | .despacho c => usaDespachador config s c
  | .vigilante c => usaVigilante s c
  | .consulta q => usaConsulta config s q
  | .timer q => usaTimer s q
  | .desconexion q => usaDesconexion s q
  | _ => []

def LeeLiberada (s : Master) (e : Evento) : Prop := ∃ q ∈ usa config s e, s.vigias q = .liberada

instance (s : Master) (e : Evento) : Decidable (LeeLiberada config s e) :=
  inferInstanceAs (Decidable (∃ q ∈ usa config s e, _))

/-- none: a step read a t_query that was freed. -/
def ejecutar : Master → List Evento → Option Master
  | s, [] => some s
  | s, e :: es => if LeeLiberada config s e then none else ejecutar (paso config s e) es

variable {config} {s s' : Master} {e : Evento} {es fs : List Evento}

theorem ejecutar_append :
    ejecutar config s (es ++ fs) = (ejecutar config s es).bind (ejecutar config · fs) := by
  induction es generalizing s with
  | nil => rfl
  | cons e es ih =>
    simp only [List.cons_append, ejecutar]
    split
    · rfl
    · exact ih

theorem correr_of_ejecutar (run : ejecutar config s es = some s') : correr config s es = s' := by
  induction es generalizing s with
  | nil => exact Option.some.inj run
  | cons e es ih =>
    rw [ejecutar] at run
    split at run
    · contradiction
    · exact ih run

theorem ejecutar_del_principio (part : es <+: fs) (run : (ejecutar config s fs).isSome) :
    ejecutar config s es = some (correr config s es) := by
  obtain ⟨resto, rfl⟩ := part
  rw [ejecutar_append] at run
  cases here : ejecutar config s es with
  | none => simp [here] at run
  | some s' => rw [correr_of_ejecutar here]

end MasterLiberadas
