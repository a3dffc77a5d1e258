import MasterOfFiles.Lib.ArrivalQueue
import MasterOfFiles.Master.Despertares

/-!
The order in which queries leave cola_queries for the Workers: each list_add gives its query
the next turn, and whatever leaves keeps the turn it had.
-/
namespace MasterTurnos
open Mensajes MasterEstado MasterManejo MasterHilos MasterMarcos MasterDespertares ArrivalQueue

def movimiento (config : Config) (s : Master) : Evento → Move Int
  | .consulta q => if s.llegadas q = .creada then .arrive q else .rest
  | .despacho c =>
    match (s.conexiones c).despachador with
    | .encolando q => .arrive q
    | .validado _ =>
      match tomarDeCola config s with
      | none => .rest
      | some q => .serve q
    | _ => .rest
  | .desconexion q =>
    if s.vigias q = .evaluada ∧ (s.queries q).estado = .ready then .withdraw q else .rest
  | _ => .rest

variable {config : Config} {s : Master} {c : Nat} {q : Int}

theorem atenderWorker_cola (h : (s.conexiones c).despachador = .atendiendo q) :
    (atenderWorker s c q).colaQueries = s.colaQueries := by
  have light : peso (despachadores s c) = 0 := by
    rw [despachadores, h]
    rfl
  exact congrArg Prod.fst (atenderWorker_balance light).1

theorem despachar_cola (config : Config) (s : Master) (c : Nat) :
    (despachar config s c).colaQueries =
      (movimiento config s (.despacho c)).on s.colaQueries := by
  simp only [movimiento]
  unfold despachar
  cases h : (s.conexiones c).despachador with
  | esperaToken idWorker =>
    dsimp only
    split <;> rfl
  | conToken idWorker =>
    dsimp only
    split
    · rfl
    · split <;> rfl
  | invalido worker => cases worker <;> rfl
  | validado idWorker =>
    dsimp only
    cases tomarDeCola config s <;> rfl
  | atendiendo q => exact atenderWorker_cola h
  | _ => rfl

theorem atenderQuery_cola (config : Config) (s : Master) (q : Int) :
    (atenderQuery config s q).colaQueries =
      (movimiento config s (.consulta q)).on s.colaQueries := by
  simp only [movimiento]
  unfold atenderQuery
  cases s.llegadas q with
  | encolada =>
    dsimp only
    split
    · rfl
    · split <;> rfl
  | decidida d => exact congrArg Prod.fst (realizarDesalojo_colas s d .workerDesalojo)
  | _ => rfl

theorem atenderDesconexionQuery_cola (config : Config) (s : Master) (q : Int) :
    (atenderDesconexionQuery config s q).colaQueries =
      (movimiento config s (.desconexion q)).on s.colaQueries := by
  simp only [movimiento]
  unfold atenderDesconexionQuery
  cases s.vigias q with
  | pendiente | avisada =>
    dsimp only
    split <;> rfl
  | desalojando d => exact congrArg Prod.fst (realizarDesalojo_colas s d .workerQueryDesconectado)
  | evaluada =>
    dsimp only
    by_cases ready : (s.queries q).estado = .ready
    · rw [if_pos ready, if_pos ⟨rfl, ready⟩]
      rfl
    · rw [if_neg ready, if_neg fun both => ready both.2]
      rfl
  | _ => rfl

theorem paso_cola (config : Config) (s : Master) (e : Evento) :
    (paso config s e).colaQueries = (movimiento config s e).on s.colaQueries := by
  cases e with
  | conectaInterrupcion c => exact congrArg Prod.fst (atenderWorkerInterrupt_colas (s := s))
  | despacho c => exact despachar_cola config s c
  | vigilante c => exact congrArg Prod.fst (vigilar_colas (s := s))
  | consulta q => exact atenderQuery_cola config s q
  | timer q => exact congrArg Prod.fst (atenderTimerQuery_colas (s := s))
  | desconexion q => exact atenderDesconexionQuery_cola config s q
  | _ => rfl

abbrev Observado := Master × Log Int

def observar (config : Config) (v : Observado) (e : Evento) : Observado :=
  (paso config v.1 e, v.2.move (movimiento config v.1 e))

def observarTodos (config : Config) (es : List Evento) : Observado :=
  es.foldl (observar config) (masterInicial, .empty)

theorem observarTodos_concat (config : Config) (es : List Evento) (e : Evento) :
    observarTodos config (es ++ [e]) = observar config (observarTodos config es) e := by
  simp [observarTodos]

theorem observarTodos_correr (config : Config) (es : List Evento) :
    (observarTodos config es).1 = correr config masterInicial es := by
  induction es using List.reverseRecOn with
  | nil => rfl
  | append_singleton es e ih =>
    rw [observarTodos_concat, correr_append, ← ih]
    rfl

/-- cola_queries stands in the order of the turns; under FIFO they went in that order too. -/
structure EnTurno (config : Config) (v : Observado) : Prop where
  cola : v.2.waiting.map Prod.snd = v.1.colaQueries
  turnos : InTurn v.2
  fifo : config.algoritmo = .fifo → FirstComeFirstServed v.2

/-- A dispatch takes the query q at turn t: all the others stay in their places. Under FIFO it
    was the first; under PRIORIDADES none of the others has a smaller prioridad now, and those
    with the same one came later. -/
def Despacho (config : Config) (v v' : Observado) (q : Int) : Prop :=
  ∃ antes t despues, v.2.waiting = antes ++ (t, q) :: despues ∧
    v'.2.waiting = antes ++ despues ∧ v'.1.colaQueries = (antes ++ despues).map Prod.snd ∧
    v'.2.served = v.2.served ++ [(t, q)] ∧
    (config.algoritmo = .fifo → antes = []) ∧
    (config.algoritmo = .prioridades → ∀ otra ∈ antes ++ despues,
      (v.1.queries q).prioridad < (v.1.queries otra.2).prioridad ∨
        (v.1.queries q).prioridad = (v.1.queries otra.2).prioridad ∧ t < otra.1)

variable {v v' : Observado}

theorem enTurno_observar (inv : EnTurno config v) (e : Evento) :
    EnTurno config (observar config v e) := by
  refine ⟨?_, inTurn_move inv.turnos _, fun fifo => served_move (inv.fifo fifo) _ fun q moved => ?_⟩
  · dsimp only [observar]
    rw [move_items, inv.cola, paso_cola]
  · -- only a dispatcher serves, and it takes the head
    rw [inv.cola]
    cases e with
    | despacho c =>
      simp only [movimiento] at moved
      split at moved
      · contradiction
      · split at moved
        · contradiction
        · rename_i taken
          cases moved
          simpa [tomarDeCola, fifo] using taken
      · contradiction
    | consulta q =>
      simp only [movimiento] at moved
      split at moved <;> contradiction
    | desconexion q =>
      simp only [movimiento] at moved
      split at moved <;> contradiction
    | _ => contradiction

theorem enTurno_siempre (config : Config) (es : List Evento) :
    EnTurno config (observarTodos config es) := by
  induction es using List.reverseRecOn with
  | nil => exact ⟨rfl, inTurn_empty, fun _ => served_empty⟩
  | append_singleton es e ih =>
    rw [observarTodos_concat]
    exact enTurno_observar ih e

theorem tomarDeCola_partes (taken : tomarDeCola config s = some q) :
    ∃ antes despues, s.colaQueries = antes ++ q :: despues ∧ (∀ o ∈ antes, o ≠ q) ∧
      (config.algoritmo = .fifo → antes = []) ∧
      (config.algoritmo = .prioridades →
        (∀ o ∈ antes, (s.queries q).prioridad < (s.queries o).prioridad) ∧
        ∀ o ∈ despues, (s.queries q).prioridad ≤ (s.queries o).prioridad) := by
  unfold tomarDeCola at taken
  cases algorithm : config.algoritmo with
  | fifo =>
    rw [algorithm] at taken
    obtain ⟨despues, split⟩ := List.head?_eq_some_iff.mp taken
    exact ⟨[], despues, split, by simp, fun _ => rfl, fun other => by contradiction⟩
  | prioridades =>
    rw [algorithm] at taken
    dsimp only at taken
    cases list : s.colaQueries with
    | nil =>
      rw [list] at taken
      contradiction
    | cons o resto =>
      rw [list] at taken
      have least : firstLeast (fun o => (s.queries o).prioridad) o resto = q :=
        Option.some.inj taken
      obtain ⟨antes, despues, split, less, same⟩ :=
        firstLeast_split (fun o => (s.queries o).prioridad) resto o
      rw [least] at split less same
      refine ⟨antes, despues, split, ?_, fun other => by contradiction, fun _ => ⟨less, same⟩⟩
      rintro o ho rfl
      exact lt_irrefl _ (less o ho)

theorem despacho_of_taken (inv : EnTurno config v) {idWorker : Int}
    (at_ : (v.1.conexiones c).despachador = .validado idWorker)
    (taken : tomarDeCola config v.1 = some q) :
    Despacho config v (observar config v (.despacho c)) q := by
  obtain ⟨antes, despues, split, others, fifo, least⟩ := tomarDeCola_partes taken
  have move : movimiento config v.1 (.despacho c) = .serve q := by
    simp only [movimiento, at_, taken]
  rw [← inv.cola] at split
  obtain ⟨before, rest, queue, rfl, tail⟩ := List.map_eq_append_iff.mp split
  obtain ⟨⟨t, q'⟩, after, rfl, same, rfl⟩ := List.map_eq_cons_iff.mp tail
  dsimp only at same
  subst same
  have first : ∀ x ∈ before, x.2 ≠ q' := fun x hx => others x.2 (List.mem_map_of_mem hx)
  have after_ := enTurno_observar inv (.despacho c)
  have waiting : (observar config v (.despacho c)).2.waiting = before ++ after := by
    show (v.2.move _).waiting = _
    rw [move, Log.move, queue, leave_split first]
  refine ⟨before, t, after, queue, waiting, ?_, ?_, ?_, ?_⟩
  · rw [← after_.cola, waiting]
  · show (v.2.move _).served = _
    rw [move, Log.move, queue, find_split first]
    rfl
  · intro algorithm
    simpa using fifo algorithm
  · intro algorithm otra hotra
    obtain ⟨less, same⟩ := least algorithm
    have sorted := inv.turnos.sorted
    rw [queue] at sorted
    rcases List.mem_append.mp hotra with ahead | behind
    · exact .inl (less otra.2 (List.mem_map_of_mem ahead))
    · have later : t < otra.1 :=
        (List.pairwise_cons.mp (List.pairwise_append.mp sorted).2.1).1 otra behind
      rcases lt_or_eq_of_le (same otra.2 (List.mem_map_of_mem behind)) with smaller | equal
      · exact .inl smaller
      · exact .inr ⟨equal, later⟩

/-- In every run, with any number of Workers: cola_queries keeps the order of arrival, under FIFO
    whatever went to a Worker came before what waits and went in that order, and each dispatch
    takes the query that the algorithm says. -/
theorem despacho_sigue_algoritmo (config : Config) (es : List Evento) :
    let v := observarTodos config es
    v.1 = correr config masterInicial es ∧ EnTurno config v ∧
      ∀ c idWorker, (v.1.conexiones c).despachador = .validado idWorker →
        v.1.colaQueries ≠ [] →
        ∃ q, ((paso config v.1 (.despacho c)).conexiones c).despachador =
            .sosteniendo idWorker q ∧
          Despacho config v (observar config v (.despacho c)) q := by
  intro v
  refine ⟨observarTodos_correr config es, enTurno_siempre config es, fun c idWorker at_ some_ => ?_⟩
  cases taken : tomarDeCola config v.1 with
  | none => exact absurd (tomarDeCola_none taken) some_
  | some q =>
    refine ⟨q, ?_, despacho_of_taken (enTurno_siempre config es) at_ taken⟩
    show ((despachar config v.1 c).conexiones c).despachador = _
    simp [despachar, at_, taken, Master.pasaA, Master.enConexion]

end MasterTurnos
