import MasterOfFiles.Master.Lugares
import MasterOfFiles.Master.Reglas
import MasterOfFiles.Master.Turnos

/-!
How long a query can wait in cola_queries. Under PRIORIDADES its timer takes its prioridad down
to 0; from then on, and under FIFO from the start, only those ahead of it go before it.
-/
namespace MasterEnvejecimiento
open Mensajes MasterEstado MasterManejo MasterHilos MasterMarcos MasterReglas MasterLugares
open MasterTurnos ArrivalQueue

def despierta (config : Config) (q : Int) (s : Master) : Evento → Bool
  | .timer u => u = q ∧ s.timers q = .durmiendo ∧ (s.queries q).alive ∧
      (s.queries q).estado = .ready ∧ config.tiempoAging ≠ 0
  | _ => false

def despertares (config : Config) (q : Int) : Master → List Evento → Nat
  | _, [] => 0
  | s, e :: es =>
    (despierta config q s e).toNat + despertares config q (paso config s e) es

/-- No Query Control asks for a priority below 0. -/
def PideBien : Evento → Prop
  | .llega _ prioridad _ => 0 ≤ prioridad
  | _ => True

instance : ∀ e, Decidable (PideBien e)
  | .llega _ prioridad _ => inferInstanceAs (Decidable (0 ≤ prioridad))
  | .conectaWorker _ | .conectaInterrupcion _ | .cierraWorker _ | .reporta _ _ | .despacho _
  | .vigilante _ | .consulta _ | .timer _ | .cierraQuery _ | .desconexion _ => isTrue trivial

variable {config : Config} {s : Master} {q : Int} {t : Nat} {e : Evento} {v : Observado}

def Acotada (q n : Int) (u : Int) (t : Query) : Prop := 0 ≤ t.prioridad ∧ (u = q → t.prioridad ≤ n)

theorem acotada_estable (q n : Int) : Estable (fun _ => True) (Acotada q n) where
  marcas _ _ _ _ := trivial
  pasa _ _ := trivial
  consume _ _ := trivial
  completa _ _ _ := trivial
  reencola _ _ _ := trivial
  asigna _ _ _ := trivial
  sigue t _ prioridad _ _ := by
    rw [Acotada, prioridad]
    exact t
  baja positiva t := by
    refine ⟨?_, fun same => ?_⟩
    · dsimp only
      omega
    · have := t.2 same
      dsimp only
      omega
  lee _ _ _ t := t
  responde _ _ t := t
  vuelve _ _ t := t
  avisa _ t := t

theorem paso_acotada {n : Int} (vieja : q < s.idQuery) (pide : PideBien e)
    (h : ∀ u, Acotada q n u (s.queries u)) (u : Int) :
    Acotada q n u ((paso config s e).queries u) := by
  have todas : Todas (fun _ => True) (Acotada q n) s := ⟨fun _ => trivial, h⟩
  refine (paso_todas (acotada_estable q n) todas ?_ ?_ ?_ ?_).2 u
  · exact fun _ _ _ _ _ _ => trivial
  · exact fun _ _ => trivial
  · exact fun _ _ _ _ _ _ => trivial
  · rintro path prioridad basura rfl
    exact ⟨pide, fun same => by omega⟩

theorem paso_despierta (despierto : despierta config q s e = true)
    (positiva : 0 < (s.queries q).prioridad) :
    ((paso config s e).queries q).prioridad = (s.queries q).prioridad - 1 := by
  cases e with
  | timer u =>
    simp only [despierta, decide_eq_true_eq] at despierto
    obtain ⟨rfl, durmiendo, alive, ready, aging⟩ := despierto
    simp only [paso, atenderTimerQuery, durmiendo]
    rw [if_pos ⟨alive, ready, positiva, aging⟩]
    simp [Master.enQuery]
  | _ => contradiction

theorem idQuery_le_paso (config : Config) (s : Master) (e : Evento) :
    s.idQuery ≤ (paso config s e).idQuery := by
  by_cases arrives : ∃ path prioridad basura, e = .llega path prioridad basura
  · obtain ⟨path, prioridad, basura, rfl⟩ := arrives
    exact Int.le_add_one (Int.le_refl _)
  · have otro := fun path prioridad basura same => arrives ⟨path, prioridad, basura, same⟩
    exact Int.le_of_eq (paso_sinLlegar config s otro).1.symm

theorem idQuery_le_correr (es : List Evento) :
    ∀ s, s.idQuery ≤ (correr config s es).idQuery := by
  induction es with
  | nil => exact fun _ => Int.le_refl _
  | cons e es ih => exact fun s => Int.le_trans (idQuery_le_paso config s e) (ih _)

theorem correr_despertares (es : List Evento) (piden : ∀ e ∈ es, PideBien e) :
    ∀ s, q < s.idQuery → (∀ u, 0 ≤ (s.queries u).prioridad) →
      (∀ u, 0 ≤ ((correr config s es).queries u).prioridad) ∧
      ((correr config s es).queries q).prioridad ≤
        max ((s.queries q).prioridad - despertares config q s es) 0 := by
  induction es with
  | nil =>
    intro s _ h
    exact ⟨h, by simp [despertares]⟩
  | cons e es ih =>
    intro s vieja h
    have acotada : ∀ u, Acotada q (s.queries q).prioridad u (s.queries u) :=
      fun u => ⟨h u, fun same => same ▸ Int.le_refl _⟩
    have after : ∀ u, Acotada q (s.queries q).prioridad u ((paso config s e).queries u) :=
      paso_acotada vieja (piden e List.mem_cons_self) acotada
    have older := Int.lt_of_lt_of_le vieja (idQuery_le_paso config s e)
    obtain ⟨nonneg, bound⟩ := ih (fun e he => piden e (List.mem_cons_of_mem _ he))
      (paso config s e) older fun u => (after u).1
    refine ⟨nonneg, Int.le_trans bound ?_⟩
    have step := (after q).2 rfl
    have zero := h q
    rw [despertares]
    cases woke : despierta config q s e with
    | false =>
      simp only [Bool.toNat_false]
      omega
    | true =>
      simp only [Bool.toNat_true]
      by_cases positiva : 0 < (s.queries q).prioridad
      · have down := paso_despierta woke positiva
        omega
      · omega

theorem sirve_inv {b : Int} (h : movimiento config s e = .serve b) :
    ∃ c idWorker, e = .despacho c ∧ (s.conexiones c).despachador = .validado idWorker ∧
      tomarDeCola config s = some b := by
  cases e with
  | despacho c =>
    simp only [movimiento] at h
    split at h
    · contradiction
    · rename_i idWorker at_
      split at h
      · contradiction
      · rename_i taken
        cases h
        exact ⟨c, idWorker, rfl, at_, taken⟩
    · contradiction
  | consulta q =>
    simp only [movimiento] at h
    split at h <;> contradiction
  | desconexion q =>
    simp only [movimiento] at h
    split at h <;> contradiction
  | _ => contradiction

/-- A query whose turn is t, and that nothing but an earlier turn can go before. -/
structure Primera (config : Config) (q : Int) (t : Nat) (v : Observado) : Prop where
  turnos : EnTurno config v
  dado : t < v.2.next
  vieja : q < v.1.idQuery
  cero : config.algoritmo = .prioridades →
    ∀ u, Acotada q 0 u (v.1.queries u)

theorem primera_observar (h : Primera config q t v) (pide : PideBien e) :
    Primera config q t (observar config v e) where
  turnos := enTurno_observar h.turnos e
  dado := Nat.lt_of_lt_of_le h.dado (next_le_move v.2 _)
  vieja := Int.lt_of_lt_of_le h.vieja (idQuery_le_paso config v.1 e)
  cero algorithm := paso_acotada h.vieja pide (h.cero algorithm)

theorem sirve_antes (h : Primera config q t v)
    (waits : (t, q) ∈ (observar config v e).2.waiting) {b : Int}
    (served : movimiento config v.1 e = .serve b) :
    ∃ before u after, v.2.waiting = before ++ (u, b) :: after ∧
      (observar config v e).2.waiting = before ++ after ∧
      (observar config v e).2.served = v.2.served ++ [(u, b)] ∧ u < t := by
  obtain ⟨c, idWorker, rfl, at_, taken⟩ := sirve_inv served
  obtain ⟨before, u, after, queue, left, _, out, fifo, least⟩ :=
    despacho_of_taken h.turnos at_ taken
  refine ⟨before, u, after, queue, left, out, ?_⟩
  rw [left] at waits
  cases algorithm : config.algoritmo with
  | fifo =>
    have sorted := h.turnos.turnos.sorted
    rw [fifo algorithm] at queue waits
    rw [queue] at sorted
    exact (List.pairwise_cons.mp sorted).1 _ waits
  | prioridades =>
    have cero := h.cero algorithm
    rcases least algorithm _ waits with smaller | ⟨_, earlier⟩
    · have below : (v.1.queries b).prioridad < 0 := Int.lt_of_lt_of_le smaller ((cero q).2 rfl)
      exact absurd (cero b).1 (Int.not_le.mpr below)
    · exact earlier

theorem next_le_foldl (es : List Evento) :
    ∀ v : Observado, v.2.next ≤ (es.foldl (observar config) v).2.next := by
  induction es with
  | nil => exact fun _ => Nat.le_refl _
  | cons e es ih => exact fun v => Nat.le_trans (next_le_move v.2 _) (ih (observar config v e))

theorem waits_before (es : List Evento) : ∀ v : Observado, t < v.2.next →
    (t, q) ∈ (es.foldl (observar config) v).2.waiting → (t, q) ∈ v.2.waiting := by
  induction es with
  | nil => exact fun _ _ => id
  | cons e es ih =>
    intro v dado waits
    have later : t < (observar config v e).2.next :=
      Nat.lt_of_lt_of_le dado (next_le_move v.2 _)
    exact mem_of_move dado (ih (observar config v e) later waits)

theorem adelantadas_corrida (es : List Evento) (piden : ∀ e ∈ es, PideBien e) :
    ∀ v : Observado, Primera config q t v →
      (t, q) ∈ (es.foldl (observar config) v).2.waiting →
      (es.foldl (observar config) v).2.served.length +
          (es.foldl (observar config) v).2.ahead t ≤ v.2.served.length + v.2.ahead t := by
  induction es with
  | nil => exact fun _ _ _ => Nat.le_refl _
  | cons e es ih =>
    intro v h waits
    have next := primera_observar h (piden e List.mem_cons_self)
    have now := waits_before es (observar config v e) next.dado waits
    have rest := ih (fun e he => piden e (List.mem_cons_of_mem _ he)) _ next waits
    exact Nat.le_trans rest (overtaken_move h.dado fun b served => sirve_antes h now served)

/-- A query waits in cola_queries at some turn when es has passed, and still does after the steps
    of as and bs. If in as its timer finds it waiting as many times as its prioridad says, then in
    bs no more queries go to the Workers than there were ahead of it when bs began, whatever
    arrives; under FIFO no timer is needed. -/
theorem envejecimiento_acota_espera (config : Config) (es as bs : List Evento)
    (piden : ∀ e ∈ es ++ as ++ bs, PideBien e) (q : Int) (t : Nat)
    (espera : (t, q) ∈ (observarTodos config es).2.waiting)
    (sigue : (t, q) ∈ (observarTodos config (es ++ as ++ bs)).2.waiting)
    (envejece : config.algoritmo = .prioridades →
      ((correr config masterInicial es).queries q).prioridad ≤
        despertares config q (correr config masterInicial es) as) :
    (observarTodos config (es ++ as ++ bs)).2.served.length ≤
      (observarTodos config (es ++ as)).2.served.length +
        (observarTodos config (es ++ as)).2.ahead t := by
  have turnos := enTurno_siempre config es
  have vieja : q < (correr config masterInicial es).idQuery := by
    have ordenado := ordenado_corrida config es
    have queued : q ∈ (correr config masterInicial es).colaQueries := by
      rw [← observarTodos_correr, ← turnos.cola]
      exact List.mem_map_of_mem espera
    exact ordenado.llegadas q (ordenado.puestas q .queue queued).1
  have dado : t < (observarTodos config (es ++ as)).2.next := by
    rw [observarTodos, List.foldl_append]
    exact Nat.lt_of_lt_of_le (turnos.turnos.given _ espera) (next_le_foldl as _)
  have pidenAs : ∀ e ∈ as, PideBien e := fun e he => piden e (by simp [he])
  have positivas : ∀ u, 0 ≤ ((correr config masterInicial es).queries u).prioridad :=
    (correr_despertares (q := -1) es (fun e he => piden e (by simp [he])) masterInicial
      (by decide) fun _ => Int.le_refl 0).1
  obtain ⟨nonneg, bound⟩ := correr_despertares as pidenAs _ vieja positivas
  rw [← correr_append] at nonneg bound
  have primera : Primera config q t (observarTodos config (es ++ as)) := by
    refine ⟨enTurno_siempre config (es ++ as), dado, ?_, fun algorithm u => ?_⟩
    · rw [observarTodos_correr, correr_append]
      exact Int.lt_of_lt_of_le vieja (idQuery_le_correr as _)
    · rw [observarTodos_correr]
      refine ⟨nonneg u, fun same => ?_⟩
      have aged := envejece algorithm
      rw [same]
      omega
  have whole : observarTodos config (es ++ as ++ bs) =
      bs.foldl (observar config) (observarTodos config (es ++ as)) := List.foldl_append
  rw [whole] at sigue ⊢
  have run := adelantadas_corrida bs (fun e he => piden e (by simp [he])) _ primera sigue
  exact Nat.le_trans (Nat.le_add_right _ _) run

def dosEnCola : List Evento :=
  [.llega "a" 0 0, .consulta 0, .consulta 0, .consulta 0, .llega "b" 1 0, .consulta 1,
    .consulta 1, .consulta 1]

theorem envejecimiento_acota_espera_dos :
    (observarTodos ⟨.prioridades, 1⟩ (dosEnCola ++ [.timer 1] ++
        .conectaWorker 7 :: List.replicate 5 (.despacho 0))).2.served = [(0, 0)] ∧
      (observarTodos ⟨.prioridades, 1⟩ (dosEnCola ++ [.timer 1] ++
        .conectaWorker 7 :: List.replicate 5 (.despacho 0))).2.served.length ≤
      (observarTodos ⟨.prioridades, 1⟩ (dosEnCola ++ [.timer 1])).2.served.length +
        (observarTodos ⟨.prioridades, 1⟩ (dosEnCola ++ [.timer 1])).2.ahead 1 :=
  ⟨by decide, envejecimiento_acota_espera ⟨.prioridades, 1⟩ dosEnCola [.timer 1]
    (.conectaWorker 7 :: List.replicate 5 (.despacho 0)) (by decide) 1 1 (by decide) (by decide)
    (by decide)⟩

end MasterEnvejecimiento
