import Mathlib.Algebra.Order.Group.Int
import Mathlib.Data.Finset.Image
import MasterOfFiles.Lib.Tally
import MasterOfFiles.Master.Lugares

/-!
sem_queries against cola_queries. A token is on the semaphore, with a dispatcher that has not
taken a query for it, or still to be posted by who queued a query. atender_desconexion_query
takes one back for a query it takes out of the list, and for one that was not there.
-/
namespace MasterDespertares
open Mensajes MasterEstado MasterManejo MasterHilos MasterMarcos MasterLugares Tally GuardedRuns

/-- Took a token and has not taken a query; invalido is about to give it back. -/
def conToken : Despachador → Nat
  | .conToken _ | .invalido _ | .validado _ => 1
  | _ => 0

def porAvisar : Despachador → Nat
  | .avisando _ => 1
  | _ => 0

/-- atender_Query between list_add and sem_post. -/
def sinAvisar : Llegada → Nat
  | .encolada | .decidida _ | .porAvisar => 1
  | _ => 0

/-- atender_desconexion_query between the removal and sem_trywait. -/
def quitando : Vigia → Nat
  | .quitando => 1
  | _ => 0

def despachadores (s : Master) (c : Nat) : Despachador := (s.conexiones c).despachador

def conexionesDe (s : Master) : Finset Nat := Finset.range s.cantidadConexiones

def queriesDe (s : Master) : Finset Int := (Finset.range s.idQuery.toNat).image Nat.cast

def tomaron (s : Master) : Nat := tally (conexionesDe s) conToken (despachadores s)

def encolaron (s : Master) : Nat :=
  tally (conexionesDe s) porAvisar (despachadores s) + tally (queriesDe s) sinAvisar s.llegadas

def retiran (s : Master) : Nat := tally (queriesDe s) quitando s.vigias

def SinPerdidas (s : Master) : Prop :=
  s.colaQueries.length ≤ s.semQueries + tomaron s + encolaron s

instance (s : Master) : Decidable (SinPerdidas s) := inferInstanceAs (Decidable (_ ≤ _))

/-- And one more for every disconnection that is about to take one back. -/
def Cubierta (s : Master) : Prop :=
  s.colaQueries.length + retiran s ≤ s.semQueries + tomaron s + encolaron s

structure Alcance (s : Master) : Prop where
  positivo : 0 ≤ s.idQuery
  queries : ∀ q, q ∉ queriesDe s → s.llegadas q = .ninguna ∧ s.vigias q = .ninguno
  conexiones : ∀ c, c ∉ conexionesDe s → despachadores s c = .ninguno

def mira : Despachador → Bool
  | .validado _ => true
  | _ => false

/-- A disconnection that finds its query READY finds it in cola_queries, and no dispatcher finds
    cola_queries empty while a disconnection is about to take a token back. -/
def SinRobo (config : Config) (s : Master) : Evento → Prop
  | .desconexion q => s.vigias q = .evaluada ∧ (s.queries q).estado = .ready → q ∈ s.colaQueries
  | .despacho c => mira (despachadores s c) = true ∧ tomarDeCola config s = none →
      ∀ i < s.idQuery.toNat, s.vigias i ≠ .quitando
  | _ => True

instance (config : Config) (s : Master) : ∀ e, Decidable (SinRobo config s e)
  | .desconexion _ => inferInstanceAs (Decidable (_ ∧ _ → _ ∈ _))
  | .despacho _ => inferInstanceAs (Decidable (_ ∧ _ → ∀ i < _, _ ≠ _))
  | .conectaWorker _ | .conectaInterrupcion _ | .cierraWorker _ | .reporta _ _ | .vigilante _
  | .llega _ _ _ | .consulta _ | .timer _ | .cierraQuery _ => inferInstanceAs (Decidable True)

variable {config : Config} {s s' : Master} {c : Nat} {q : Int}

def colas (s : Master) : List Int × Nat := (s.colaQueries, s.semQueries)

structure MismosTurnos (s s' : Master) : Prop where
  colas : colas s' = colas s
  registro : registro s' = registro s
  despachadores : despachadores s' = despachadores s

theorem despachadores_of_ficha (same : ∀ c, ficha (s'.conexiones c) = ficha (s.conexiones c)) :
    despachadores s' = despachadores s :=
  funext fun c => congrArg Prod.snd (same c)

theorem cubierta_turnos (same : MismosTurnos s s') (h : Cubierta s) : Cubierta s' := by
  obtain ⟨queue, threads, dispatchers⟩ := same
  simp only [colas, Prod.mk.injEq] at queue
  simp only [registro, Prod.mk.injEq] at threads
  simp only [Cubierta, retiran, tomaron, encolaron, conexionesDe, queriesDe, queue.1, queue.2,
    threads.1, threads.2.1, threads.2.2.1, threads.2.2.2.1, dispatchers] at h ⊢
  exact h

theorem alcance_turnos (same : MismosTurnos s s') (h : Alcance s) : Alcance s' := by
  obtain ⟨_, threads, dispatchers⟩ := same
  simp only [registro, Prod.mk.injEq] at threads
  refine ⟨by rw [threads.2.1]; exact h.positivo, ?_, ?_⟩
  · intro q outside
    rw [threads.1, threads.2.2.2.1]
    refine h.queries q ?_
    rwa [queriesDe, threads.2.1] at outside
  · intro c outside
    rw [dispatchers]
    refine h.conexiones c ?_
    rwa [conexionesDe, threads.2.2.1] at outside

theorem realizarDesalojo_colas (s : Master) (d : Desalojo) (codOp : OpCode) :
    colas (realizarDesalojo s d codOp) = colas s := by
  unfold realizarDesalojo
  split
  · rfl
  · split <;> rfl

theorem realizarDesalojo_turnos (s : Master) (d : Desalojo) (codOp : OpCode) :
    MismosTurnos s (realizarDesalojo s d codOp) :=
  ⟨realizarDesalojo_colas s d codOp, realizarDesalojo_registro s d codOp,
    despachadores_of_ficha fun c =>
      proy_of_marco ficha (realizarDesalojo_marco s d codOp) c fun _ => rfl⟩

theorem vigilar_colas : colas (vigilar s c) = colas s := by
  unfold vigilar
  cases (s.conexiones c).vigilante with
  | vigilando o | descontado o | esperando o =>
    dsimp only
    split <;> rfl
  | _ => rfl

theorem atenderWorkerInterrupt_colas : colas (atenderWorkerInterrupt s c) = colas s := by
  unfold atenderWorkerInterrupt
  split <;> rfl

theorem atenderTimerQuery_colas : colas (atenderTimerQuery config s q) = colas s := by
  unfold atenderTimerQuery
  dsimp only
  split
  · split
    · rfl
    · split
      · rfl
      · split <;> rfl
  · split <;> rfl
  · exact realizarDesalojo_colas s _ _
  · split
    · rfl
    · split <;> rfl
  · split <;> rfl
  all_goals rfl

theorem tomarDeCola_none (h : tomarDeCola config s = none) : s.colaQueries = [] := by
  unfold tomarDeCola at h
  split at h
  · exact List.head?_eq_none_iff.mp h
  · cases queue : s.colaQueries with
    | nil => rfl
    | cons q qs =>
      rw [queue] at h
      contradiction

def peso (d : Despachador) : Nat := conToken d + porAvisar d

theorem manejar_balance (lee : Option Manejo) (h : peso (despachadores s c) = 0) :
    colas (manejar s c q lee) = colas s ∧ peso (despachadores (manejar s c q lee) c) = 0 := by
  have pasa (s' : Master) (d : Despachador) (light : peso d = 0) :
      peso (despachadores (s'.pasaA c d) c) = 0 := by
    simpa [despachadores, Master.pasaA, Master.enConexion] using light
  unfold manejar
  split
  · exact ⟨rfl, pasa _ _ rfl⟩
  · exact ⟨rfl, pasa _ _ rfl⟩
  all_goals
    split
    · exact ⟨rfl, by first | exact pasa _ _ rfl | exact h⟩
    · exact ⟨rfl, pasa _ _ rfl⟩

theorem atenderWorker_balance (h : peso (despachadores s c) = 0) :
    colas (atenderWorker s c q) = colas s ∧
      peso (despachadores (atenderWorker s c q) c) = 0 := by
  have pasa (s' : Master) (d : Despachador) (light : peso d = 0) :
      peso (despachadores (s'.pasaA c d) c) = 0 := by
    simpa [despachadores, Master.pasaA, Master.enConexion] using light
  unfold atenderWorker
  dsimp only
  split
  · unfold workerSeFue
    split
    · exact ⟨rfl, pasa _ _ rfl⟩
    · exact ⟨rfl, pasa _ _ rfl⟩
  · split
    · exact ⟨rfl, h⟩
    · refine manejar_balance (s := s.enConexion c _) _ ?_
      simpa [despachadores, Master.enConexion] using h

theorem despachadores_pasaA (s : Master) (c : Nat) (d : Despachador) :
    despachadores (s.pasaA c d) c = d := by
  simp [despachadores, Master.pasaA, Master.enConexion]

variable (config s c) in
theorem despachar_balance :
    (mira (despachadores s c) = true ∧ tomarDeCola config s = none ∧
        colas (despachar config s c) = colas s) ∨
      s.semQueries + peso (despachadores s c) + (despachar config s c).colaQueries.length ≤
        (despachar config s c).semQueries + peso (despachadores (despachar config s c) c) +
          s.colaQueries.length := by
  have same (d : Despachador) (at_ : despachadores s c = d) (light : peso d = 0) :
      colas (despachar config s c) = colas s ∧
        peso (despachadores (despachar config s c) c) = 0 →
      s.semQueries + peso (despachadores s c) + (despachar config s c).colaQueries.length ≤
        (despachar config s c).semQueries + peso (despachadores (despachar config s c) c) +
          s.colaQueries.length := by
    rintro ⟨queue, still⟩
    simp only [colas, Prod.mk.injEq] at queue
    rw [queue.1, queue.2, still, at_, light]
  cases h : (s.conexiones c).despachador with
  | conectada | contada | agregada _ _ | completando _ _ | reencolando _ _ | sosteniendo _ _
    | corriendo _ _ =>
    refine .inr (same _ h rfl ?_)
    simp [despachar, h, colas, peso, conToken, porAvisar, despachadores, Master.pasaA,
      Master.enConexion, Master.enQuery]
  | esperaToken idWorker =>
    refine .inr ?_
    by_cases empty : s.semQueries = 0
    · simp [despachar, h, empty, despachadores]
    · simp only [despachar, h, empty, if_false, despachadores_pasaA]
      simp only [despachadores, h, peso, conToken, porAvisar, Master.pasaA, Master.enConexion]
      omega
  | conToken idWorker =>
    refine .inr ?_
    simp only [despachar, h]
    split
    · simp [despachadores, h, peso, conToken, porAvisar, Master.pasaA, Master.enConexion]
    · split <;> simp [despachadores, h, peso, conToken, porAvisar, Master.pasaA, Master.enConexion]
  | invalido worker =>
    refine .inr ?_
    cases worker <;>
      simp [despachar, despachadores, h, peso, conToken, porAvisar, Master.pasaA,
        Master.enConexion]
  | validado idWorker =>
    cases taken : tomarDeCola config s with
    | none =>
      refine .inl ⟨by simp [despachadores, h, mira], rfl, ?_⟩
      simp [despachar, h, taken, colas, Master.pasaA, Master.enConexion]
    | some q =>
      refine .inr ?_
      have shorter := List.length_erase_of_mem (mem_of_tomarDeCola taken)
      have some_ := List.length_pos_of_mem (mem_of_tomarDeCola taken)
      simp only [despachar, h, taken, despachadores_pasaA]
      simp only [despachadores, h, peso, conToken, porAvisar, Master.pasaA, Master.enConexion,
        shorter]
      omega
  | atendiendo q =>
    refine .inr (same _ h rfl ?_)
    simp only [despachar, h]
    exact atenderWorker_balance (by simp [despachadores, h, peso, conToken, porAvisar])
  | encolando q =>
    refine .inr ?_
    simp [despachar, despachadores, h, peso, conToken, porAvisar, Master.pasaA, Master.enConexion]
    omega
  | avisando q =>
    refine .inr ?_
    simp [despachar, despachadores, h, peso, conToken, porAvisar, Master.pasaA, Master.enConexion,
      Master.enQuery]
  | ninguno | abandonada _ | roto _ | fin =>
    refine .inr (same _ h rfl ?_)
    simp [despachar, h, despachadores, peso, conToken, porAvisar]

theorem despachadores_despachar :
    despachadores (despachar config s c) =
      Function.update (despachadores s) c (despachadores (despachar config s c) c) := by
  funext o
  by_cases ho : o = c
  · subst ho
    simp
  · rw [Function.update_of_ne ho]
    exact congrArg Prod.snd (despachar_ajena ho)

theorem mem_queriesDe {u : Int} : u ∈ queriesDe s ↔ 0 ≤ u ∧ u < s.idQuery := by
  simp only [queriesDe, Finset.mem_image, Finset.mem_range]
  constructor
  · rintro ⟨n, hn, rfl⟩
    omega
  · intro h
    exact ⟨u.toNat, by omega, by simp [h.1]⟩

theorem retiran_zero (none_ : ∀ i < s.idQuery.toNat, s.vigias i ≠ .quitando) : retiran s = 0 := by
  refine tally_eq_zero fun q hq => ?_
  obtain ⟨low, high⟩ := mem_queriesDe.mp hq
  have idle := none_ q.toNat (by omega)
  rw [Int.toNat_of_nonneg low] at idle
  cases h : s.vigias q with
  | quitando => exact (idle h).elim
  | _ => rfl

theorem despachar_fuera (alcance : Alcance s) (outside : c ∉ conexionesDe s) :
    despachar config s c = s := by
  have idle : (s.conexiones c).despachador = .ninguno := alcance.conexiones c outside
  simp [despachar, idle]

theorem cubierta_despachar (alcance : Alcance s) (h : Cubierta s)
    (guard : SinRobo config s (.despacho c)) : Cubierta (despachar config s c) := by
  by_cases hc : c ∈ conexionesDe s
  swap
  · rw [despachar_fuera alcance hc]
    exact h
  have threads : registro (despachar config s c) = registro s := despachar_registro
  simp only [registro, Prod.mk.injEq] at threads
  obtain ⟨arrivals, ids, count, watchers, _⟩ := threads
  have holders := tally_update conToken (despachadores s) hc
    (despachadores (despachar config s c) c)
  have posters := tally_update porAvisar (despachadores s) hc
    (despachadores (despachar config s c) c)
  rw [← despachadores_despachar] at holders posters
  have balance := despachar_balance config s c
  simp only [Cubierta, retiran, tomaron, encolaron, conexionesDe, queriesDe, arrivals, ids, count,
    watchers, peso] at h holders posters balance ⊢
  rcases balance with ⟨looks, none_, same⟩ | balance
  · -- the list is empty, so only the disconnections count, and there is none
    have alone := retiran_zero (guard ⟨looks, none_⟩)
    have empty := tomarDeCola_none none_
    simp only [colas, Prod.mk.injEq] at same
    simp only [retiran, queriesDe] at alone
    rw [same.1, empty, alone]
    simp
  · omega

theorem alcance_despachar (h : Alcance s) : Alcance (despachar config s c) := by
  have threads : registro (despachar config s c) = registro s := despachar_registro
  simp only [registro, Prod.mk.injEq] at threads
  obtain ⟨arrivals, ids, count, watchers, _⟩ := threads
  refine ⟨by rw [ids]; exact h.positivo, ?_, ?_⟩
  · intro q outside
    rw [arrivals, watchers]
    refine h.queries q ?_
    rwa [queriesDe, ids] at outside
  · intro o outside
    rw [conexionesDe, count] at outside
    by_cases ho : o = c
    · subst ho
      rw [despachar_fuera h outside]
      exact h.conexiones o outside
    · rw [despachadores_despachar, Function.update_of_ne ho]
      exact h.conexiones o outside

structure Consulta (s : Master) (q : Int) (l : Llegada) (s' : Master) : Prop where
  llegadas : s'.llegadas = Function.update s.llegadas q l
  idQuery : s'.idQuery = s.idQuery
  cantidad : s'.cantidadConexiones = s.cantidadConexiones
  vigias : s'.vigias = s.vigias
  despachadores : despachadores s' = despachadores s
  puesta : s.llegadas q ≠ .ninguna
  balance : s.semQueries + sinAvisar (s.llegadas q) + s'.colaQueries.length ≤
    s'.semQueries + sinAvisar l + s.colaQueries.length

variable (config) in
theorem atenderQuery_consulta (s : Master) (q : Int) :
    atenderQuery config s q = s ∨ ∃ l, Consulta s q l (atenderQuery config s q) := by
  unfold atenderQuery
  dsimp only
  cases h : s.llegadas q with
  | ninguna | fin => exact .inl rfl
  | creada =>
    refine .inr ⟨.encolada, rfl, rfl, rfl, rfl, rfl, by simp [h], ?_⟩
    simp [h, sinAvisar]
    omega
  | encolada =>
    dsimp only
    split
    · exact .inr ⟨.porAvisar, rfl, rfl, rfl, rfl, rfl, by simp [h], by simp [h, sinAvisar]⟩
    · split
      · exact .inr ⟨.porAvisar, rfl, rfl, rfl, rfl, rfl, by simp [h], by simp [h, sinAvisar]⟩
      · exact .inr ⟨.decidida _, rfl, rfl, rfl, rfl, rfl, by simp [h], by simp [h, sinAvisar]⟩
  | decidida d =>
    have same := realizarDesalojo_turnos s d .workerDesalojo
    obtain ⟨queue, threads, dispatchers⟩ := same
    simp only [colas, Prod.mk.injEq] at queue
    simp only [registro, Prod.mk.injEq] at threads
    refine .inr ⟨.porAvisar, congrArg (Function.update · q Llegada.porAvisar) threads.1,
      threads.2.1, threads.2.2.1, threads.2.2.2.1, dispatchers, by simp [h], ?_⟩
    simp [h, sinAvisar, queue.1, queue.2]
  | porAvisar =>
    refine .inr ⟨.fin, rfl, rfl, rfl, rfl, rfl, by simp [h], ?_⟩
    simp [h, sinAvisar]

theorem dentro_of_puesta (alcance : Alcance s) (h : s.llegadas q ≠ .ninguna) :
    q ∈ queriesDe s := by
  by_contra outside
  exact h (alcance.queries q outside).1

theorem dentro_of_vigia (alcance : Alcance s) (h : s.vigias q ≠ .ninguno) : q ∈ queriesDe s := by
  by_contra outside
  exact h (alcance.queries q outside).2

theorem cubierta_consulta {l : Llegada} (alcance : Alcance s) (h : Cubierta s)
    (step : Consulta s q l s') : Cubierta s' := by
  have arrivals := tally_update sinAvisar s.llegadas
    (dentro_of_puesta alcance step.puesta) l
  have balance := step.balance
  simp only [Cubierta, retiran, tomaron, encolaron, conexionesDe, queriesDe, step.llegadas,
    step.idQuery, step.cantidad, step.vigias, step.despachadores] at h arrivals ⊢
  omega

theorem alcance_consulta {l : Llegada} (h : Alcance s) (step : Consulta s q l s') :
    Alcance s' := by
  refine ⟨by rw [step.idQuery]; exact h.positivo, ?_, ?_⟩
  · intro u outside
    rw [queriesDe, step.idQuery] at outside
    have other : u ≠ q := by
      rintro rfl
      exact outside (dentro_of_puesta h step.puesta)
    rw [step.llegadas, step.vigias, Function.update_of_ne other]
    exact h.queries u outside
  · intro c outside
    rw [conexionesDe, step.cantidad] at outside
    rw [step.despachadores]
    exact h.conexiones c outside

structure Desconexion (s : Master) (q : Int) (v : Vigia) (s' : Master) : Prop where
  vigias : s'.vigias = Function.update s.vigias q v
  idQuery : s'.idQuery = s.idQuery
  cantidad : s'.cantidadConexiones = s.cantidadConexiones
  llegadas : s'.llegadas = s.llegadas
  despachadores : despachadores s' = despachadores s
  puesto : s.vigias q ≠ .ninguno
  balance : s.semQueries + quitando v + s'.colaQueries.length ≤
    s'.semQueries + quitando (s.vigias q) + s.colaQueries.length

theorem atenderDesconexionQuery_desconexion (guard : SinRobo config s (.desconexion q)) :
    atenderDesconexionQuery config s q = s ∨
      ∃ v, Desconexion s q v (atenderDesconexionQuery config s q) := by
  unfold atenderDesconexionQuery
  dsimp only
  cases h : s.vigias q with
  | ninguno | liberada | fin => exact .inl rfl
  | pendiente =>
    dsimp only
    split
    · exact .inr ⟨.avisada, rfl, rfl, rfl, rfl, rfl, by simp [h],
        by simp [h, quitando, Master.enQuery]⟩
    · exact .inr ⟨.fin, rfl, rfl, rfl, rfl, rfl, by simp [h], by simp [h, quitando]⟩
  | avisada =>
    dsimp only
    split
    · exact .inr ⟨.desalojando _, rfl, rfl, rfl, rfl, rfl, by simp [h], by simp [h, quitando]⟩
    · exact .inr ⟨.evaluada, rfl, rfl, rfl, rfl, rfl, by simp [h], by simp [h, quitando]⟩
  | desalojando d =>
    obtain ⟨queue, threads, dispatchers⟩ := realizarDesalojo_turnos s d .workerQueryDesconectado
    simp only [colas, Prod.mk.injEq] at queue
    simp only [registro, Prod.mk.injEq] at threads
    refine .inr ⟨.evaluada, congrArg (Function.update · q Vigia.evaluada) threads.2.2.2.1,
      threads.2.1, threads.2.2.1, threads.1, dispatchers, by simp [h], ?_⟩
    simp [h, quitando, queue.1, queue.2]
  | evaluada =>
    dsimp only
    split
    · rename_i ready
      have queued : q ∈ s.colaQueries := guard ⟨h, ready⟩
      have shorter := List.length_erase_of_mem queued
      have some_ := List.length_pos_of_mem queued
      refine .inr ⟨.quitando, rfl, rfl, rfl, rfl, rfl, by simp [h], ?_⟩
      simp only [h, quitando, shorter]
      omega
    · exact .inr ⟨.saliendo, rfl, rfl, rfl, rfl, rfl, by simp [h], by simp [h, quitando]⟩
  | quitando =>
    -- sem_trywait on an empty semaphore takes nothing back
    refine .inr ⟨.saliendo, rfl, rfl, rfl, rfl, rfl, by simp [h], ?_⟩
    simp only [h, quitando]
    omega
  | saliendo =>
    exact .inr ⟨.uniendo, rfl, rfl, rfl, rfl, rfl, by simp [h],
      by simp [h, quitando, Master.enQuery]⟩
  | uniendo =>
    refine .inr ⟨_, rfl, rfl, rfl, rfl, rfl, by simp [h], ?_⟩
    split <;> simp [h, quitando]

theorem cubierta_desconexion {v : Vigia} (alcance : Alcance s) (h : Cubierta s)
    (step : Desconexion s q v s') : Cubierta s' := by
  have watchers := tally_update quitando s.vigias
    (dentro_of_vigia alcance step.puesto) v
  have balance := step.balance
  simp only [Cubierta, retiran, tomaron, encolaron, conexionesDe, queriesDe, step.llegadas,
    step.idQuery, step.cantidad, step.vigias, step.despachadores] at h watchers ⊢
  omega

theorem alcance_desconexion {v : Vigia} (h : Alcance s) (step : Desconexion s q v s') :
    Alcance s' := by
  refine ⟨by rw [step.idQuery]; exact h.positivo, ?_, ?_⟩
  · intro u outside
    rw [queriesDe, step.idQuery] at outside
    have other : u ≠ q := by
      rintro rfl
      exact outside (dentro_of_vigia h step.puesto)
    rw [step.llegadas, step.vigias, Function.update_of_ne other]
    exact h.queries u outside
  · intro c outside
    rw [conexionesDe, step.cantidad] at outside
    rw [step.despachadores]
    exact h.conexiones c outside

theorem queriesDe_nueva (alcance : Alcance s) (path : String) (prioridad basura : Int) :
    queriesDe (nuevaQuery s path prioridad basura) = insert s.idQuery (queriesDe s) ∧
      s.idQuery ∉ queriesDe s := by
  have positive := alcance.positivo
  constructor
  · ext u
    simp only [mem_queriesDe, nuevaQuery, Finset.mem_insert]
    omega
  · simp [mem_queriesDe]

theorem cubierta_nuevaQuery (alcance : Alcance s) (h : Cubierta s) (path : String)
    (prioridad basura : Int) : Cubierta (nuevaQuery s path prioridad basura) := by
  obtain ⟨ids, fresh⟩ := queriesDe_nueva alcance path prioridad basura
  have arrivals := tally_insert sinAvisar s.llegadas fresh .creada
  have watchers := tally_insert quitando s.vigias fresh .pendiente
  rw [← ids] at arrivals watchers
  simp only [Cubierta, retiran, tomaron, encolaron] at h ⊢
  have same : tally (queriesDe (nuevaQuery s path prioridad basura)) sinAvisar
      (nuevaQuery s path prioridad basura).llegadas = tally (queriesDe s) sinAvisar s.llegadas :=
    arrivals.trans (Nat.zero_add _)
  have still : tally (queriesDe (nuevaQuery s path prioridad basura)) quitando
      (nuevaQuery s path prioridad basura).vigias = tally (queriesDe s) quitando s.vigias :=
    watchers.trans (Nat.zero_add _)
  rw [same, still]
  exact h

theorem alcance_nuevaQuery (h : Alcance s) (path : String) (prioridad basura : Int) :
    Alcance (nuevaQuery s path prioridad basura) := by
  have positive := h.positivo
  refine ⟨?_, ?_, h.conexiones⟩
  · simp only [nuevaQuery]
    omega
  · intro u outside
    rw [(queriesDe_nueva h path prioridad basura).1, Finset.mem_insert, not_or] at outside
    simp only [nuevaQuery, Function.update_of_ne outside.1]
    exact h.queries u outside.2

theorem despachadores_conectar (s : Master) (id : Int) : despachadores (conectarWorker s id) =
    Function.update (despachadores s) s.cantidadConexiones .conectada := by
  funext c
  by_cases hc : c = s.cantidadConexiones
  · subst hc
    simp [despachadores, conectarWorker, Conexion.nueva]
  · simp [despachadores, conectarWorker, hc]

theorem cubierta_conectarWorker (h : Cubierta s) (id : Int) : Cubierta (conectarWorker s id) := by
  have fresh : s.cantidadConexiones ∉ conexionesDe s := by simp [conexionesDe]
  have grown : conexionesDe (conectarWorker s id) =
      insert s.cantidadConexiones (conexionesDe s) := Finset.range_add_one
  have holders := tally_insert conToken (despachadores s) fresh .conectada
  have posters := tally_insert porAvisar (despachadores s) fresh .conectada
  rw [← despachadores_conectar s id, ← grown] at holders posters
  simp only [Cubierta, retiran, tomaron, encolaron, holders, posters] at h ⊢
  simpa [conToken, porAvisar, queriesDe, conectarWorker] using h

theorem alcance_conectarWorker (h : Alcance s) (id : Int) : Alcance (conectarWorker s id) := by
  refine ⟨h.positivo, h.queries, ?_⟩
  intro c outside
  simp only [conexionesDe, conectarWorker, Finset.mem_range] at outside
  rw [despachadores_conectar, Function.update_of_ne (by omega)]
  exact h.conexiones c (by simp only [conexionesDe, Finset.mem_range]; omega)

theorem paso_turnos {e : Evento} (ajeno : (∀ c, e ≠ .despacho c) ∧ (∀ q, e ≠ .consulta q) ∧
    (∀ q, e ≠ .desconexion q) ∧ (∀ id, e ≠ .conectaWorker id) ∧
    ∀ path prioridad basura, e ≠ .llega path prioridad basura) (noCierra : ∀ q, e ≠ .cierraQuery q) :
    MismosTurnos s (paso config s e) := by
  have dispatchers : despachadores (paso config s e) = despachadores s :=
    despachadores_of_ficha fun c => ficha_ajena (ajeno.1 c) fun id h => (ajeno.2.2.2.1 id h).elim
  cases e with
  | despacho c => exact (ajeno.1 c rfl).elim
  | consulta q => exact (ajeno.2.1 q rfl).elim
  | desconexion q => exact (ajeno.2.2.1 q rfl).elim
  | conectaWorker id => exact (ajeno.2.2.2.1 id rfl).elim
  | llega path prioridad basura => exact (ajeno.2.2.2.2 path prioridad basura rfl).elim
  | cierraQuery q => exact (noCierra q rfl).elim
  | conectaInterrupcion c =>
    exact ⟨atenderWorkerInterrupt_colas, atenderWorkerInterrupt_registro, dispatchers⟩
  | cierraWorker c => exact ⟨rfl, rfl, dispatchers⟩
  | reporta c m => exact ⟨rfl, rfl, dispatchers⟩
  | vigilante c => exact ⟨vigilar_colas, vigilar_registro, dispatchers⟩
  | timer q => exact ⟨atenderTimerQuery_colas, atenderTimerQuery_registro, dispatchers⟩

theorem cubierta_paso (e : Evento) (inv : Alcance s ∧ Cubierta s) (guard : SinRobo config s e) :
    Alcance (paso config s e) ∧ Cubierta (paso config s e) := by
  obtain ⟨alcance, covered⟩ := inv
  have quiet : MismosTurnos s (paso config s e) →
      Alcance (paso config s e) ∧ Cubierta (paso config s e) := fun same =>
    ⟨alcance_turnos same alcance, cubierta_turnos same covered⟩
  cases e with
  | despacho c =>
    exact ⟨alcance_despachar alcance, cubierta_despachar alcance covered guard⟩
  | consulta q =>
    rcases atenderQuery_consulta config s q with same | ⟨l, step⟩
    · simp only [paso, same]
      exact ⟨alcance, covered⟩
    · exact ⟨alcance_consulta alcance step, cubierta_consulta alcance covered step⟩
  | desconexion q =>
    rcases atenderDesconexionQuery_desconexion guard with same | ⟨v, step⟩
    · simp only [paso, same]
      exact ⟨alcance, covered⟩
    · exact ⟨alcance_desconexion alcance step, cubierta_desconexion alcance covered step⟩
  | conectaWorker id =>
    exact ⟨alcance_conectarWorker alcance id, cubierta_conectarWorker covered id⟩
  | llega path prioridad basura =>
    exact ⟨alcance_nuevaQuery alcance path prioridad basura,
      cubierta_nuevaQuery alcance covered path prioridad basura⟩
  | cierraQuery q =>
    exact ⟨⟨alcance.positivo, alcance.queries, alcance.conexiones⟩, covered⟩
  | conectaInterrupcion c => exact quiet (paso_turnos (by simp) (by simp))
  | cierraWorker c => exact quiet (paso_turnos (by simp) (by simp))
  | reporta c m => exact quiet (paso_turnos (by simp) (by simp))
  | vigilante c => exact quiet (paso_turnos (by simp) (by simp))
  | timer q => exact quiet (paso_turnos (by simp) (by simp))

theorem cubierta_inicial : Alcance masterInicial ∧ Cubierta masterInicial := by
  refine ⟨⟨le_refl 0, fun q _ => ⟨rfl, rfl⟩, fun c _ => rfl⟩, ?_⟩
  simp [Cubierta, retiran, queriesDe, masterInicial, tally]

/-- Along every run in which no disconnection takes a token that is not its query's, every
    queued query has one in every state reached. -/
theorem cada_query_en_cola_tiene_ficha (config : Config) {es : List Evento}
    (safe : Along (paso config) (SinRobo config) masterInicial es) :
    ∀ pre, pre <+: es → SinPerdidas (correr config masterInicial pre) := by
  intro pre hp
  have reached := invariant_on_prefixes (fun s => Alcance s ∧ Cubierta s)
    (fun s e inv guard => cubierta_paso e inv guard) cubierta_inicial safe pre hp
  have covered : Cubierta (correr config masterInicial pre) := reached.2
  simp only [SinPerdidas, Cubierta] at covered ⊢
  omega

def fifo : Config := ⟨.fifo, 0⟩

def llegaYAvisa (q : Int) : List Evento := [.llega "q" 1 0, .consulta q, .consulta q, .consulta q]

/-- Queries 0 and 1 are queued and the Query Control of 0 is gone before a Worker comes. -/
def desconexionEnCola : List Evento :=
  llegaYAvisa 0 ++ llegaYAvisa 1 ++ [.cierraQuery 0] ++ List.replicate 5 (.desconexion 0) ++
    [.conectaWorker 7] ++ List.replicate 6 (.despacho 0)

theorem cada_query_en_cola_tiene_ficha_corrida :
    Along (paso fifo) (SinRobo fifo) masterInicial desconexionEnCola ∧
      ∀ pre, pre <+: desconexionEnCola → SinPerdidas (correr fifo masterInicial pre) :=
  ⟨by decide, cada_query_en_cola_tiene_ficha fifo (by decide)⟩

/-- A dispatcher has taken query 0 out of the list and not marked it RUNNING yet when the
    disconnection looks at it. -/
def desconexionEnMano : List Evento :=
  llegaYAvisa 0 ++ llegaYAvisa 1 ++ [.conectaWorker 7] ++ List.replicate 5 (.despacho 0) ++
    [.cierraQuery 0] ++ List.replicate 4 (.desconexion 0)

theorem desconexion_toma_ficha_ajena :
    ¬ SinPerdidas (correr fifo masterInicial desconexionEnMano) := by
  decide

end MasterDespertares
