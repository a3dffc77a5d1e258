import MasterOfFiles.Lib.GuardedRuns
import MasterOfFiles.Sistema.Red

/-!
For which query an interruption takes effect. The packet says nothing about it, so that a
Worker leaves the query it is on when the flag comes up, whatever it came up for.
-/
namespace SistemaInterrupciones
open Mensajes MasterEstado MasterMarcos WorkerPasos SistemaRed GuardedRuns
open MasterHilos hiding Evento paso
open WorkerInterprete hiding Evento paso

def actual (con : Conexion) : Option Int := con.asignaciones.head?.bind (·.entero 1)

/-- Every query left because of the flag is the one its interruptions were issued for. -/
def SalidasPropias (S : Sistema) : Prop :=
  ∀ x ∈ S.salidas, x.2 ≠ [] ∧ ∀ o ∈ x.2, o = x.1

instance (S : Sistema) : Decidable (SalidasPropias S) :=
  inferInstanceAs (Decidable (∀ x ∈ S.salidas, _))

/-- The flag comes up while the Worker has the assignment of the query it came up for, and it
    is not up when the Worker leaves an assignment for another reason. -/
def oportuno (archivos : Nat → String → Option (List Decode)) (S : Sistema) (e : Evento) : Bool :=
  match ejecucion S e, e with
  | some (c, e), _ => !((S.workers c).hayInterrupcion && deja (archivos c) (S.workers c) e)
  | none, .marca c => (S.leida c).all fun o => actual (S.master.conexiones c) = some o
  | _, _ => true

structure AlDia (S : Sistema) (c : Nat) : Prop where
  actual : ∀ q, asignada (S.workers c) = some q → actual (S.master.conexiones c) = some q
  arriba : (S.workers c).hayInterrupcion = true → S.origenes c ≠ [] ∧
    ∀ o ∈ S.origenes c, SistemaInterrupciones.actual (S.master.conexiones c) = some o
  abajo : (S.workers c).hayInterrupcion = false → S.origenes c = []
  leida : (S.workers c).avisada = true → ∃ o, S.leida c = some o

variable {config : Config} {archivos : Nat → String → Option (List Decode)} {tamanioPagina : Nat}
variable {S S' : Sistema} {c : Nat} {q : Int}

theorem actual_avanza {con con' : Conexion} (h : Avanza con con') (antes : actual con = some q) :
    actual con' = some q := by
  obtain ⟨resto, partes⟩ := h.asignaciones
  unfold actual at antes ⊢
  cases lista : con.asignaciones with
  | nil => simp [lista] at antes
  | cons a as =>
    rw [lista] at antes partes
    rw [← partes]
    exact antes

theorem alDia_avanza (h : AlDia S c) (workers : S'.workers c = S.workers c)
    (leida : S'.leida c = S.leida c) (origenes : S'.origenes c = S.origenes c)
    (avanza : Avanza (S.master.conexiones c) (S'.master.conexiones c)) : AlDia S' c := by
  constructor
  · rw [workers]
    exact fun q hq => actual_avanza avanza (h.actual q hq)
  · rw [workers, origenes]
    exact fun hay => ⟨(h.arriba hay).1, fun o ho => actual_avanza avanza ((h.arriba hay).2 o ho)⟩
  · rw [workers, origenes]
    exact h.abajo
  · rw [workers, leida]
    exact h.leida

theorem alDia_pasoMaster (h : AlDia S c) (e : MasterHilos.Evento) :
    AlDia (pasoMaster config S e) c := by
  have sigue (nueva : ∀ id, e ≠ .conectaWorker id) (sinInforme : ∀ o m, e ≠ .reporta o m) :
      AlDia { S with master := MasterHilos.paso config S.master e } c :=
    alDia_avanza h rfl rfl rfl
      (paso_avanza (fun id same => (nueva id same).elim) sinInforme)
  cases e with
  | reporta o m => exact h
  | conectaWorker id =>
    by_cases nueva : c = S.master.cantidadConexiones
    · subst nueva
      constructor
      · simp [pasoMaster, workerInicial, asignada, Hilo.asignada]
      · simp [pasoMaster, workerInicial]
      · simp [pasoMaster]
      · simp [pasoMaster, workerInicial]
    · apply alDia_avanza h
      · simp [pasoMaster, nueva]
      · simp [pasoMaster, nueva]
      · simp [pasoMaster, nueva]
      · have misma : Avanza (S.master.conexiones c)
            ((MasterHilos.paso config S.master (.conectaWorker id)).conexiones c) :=
          paso_avanza (by rintro _ _ rfl; exact nueva rfl) (by simp)
        exact misma
  | _ => exact sigue (by simp) (by simp)

theorem entregar_misma {w w' : Worker} (mismas : w'.cerradas.length = w.cerradas.length) :
    actual ((entregar S.master c w w').conexiones c) = actual (S.master.conexiones c) := by
  simp [entregar, Master.enConexion, actual, mismas]

theorem alDia_ejecutar (h : AlDia S c) {e : WorkerInterprete.Evento}
    (otra : ∀ desconectado, e ≠ .interrupcion desconectado) (noMarca : e ≠ .marca)
    (tomada : ∀ q path pc, e = .asignacion q path pc →
      actual (S.master.conexiones c) = some q)
    (guarda : (S.workers c).hayInterrupcion = true → deja (archivos c) (S.workers c) e = false) :
    AlDia (ejecutar archivos tamanioPagina S c e) c := by
  obtain ⟨avisada, hay⟩ := flags_paso (archivos c) tamanioPagina (w := S.workers c) otra noMarca
  have caso := sigue_o_libre (archivos c) tamanioPagina otra noMarca guarda
  have origenes := ejecutar_origenes archivos tamanioPagina S c e c
  constructor
  · intro q hq
    rw [ejecutar_workers, Function.update_self] at hq
    rcases caso with ⟨mismas, _⟩ | ⟨libre, _⟩
    · rw [ejecutar_master, entregar_misma mismas]
      rcases asignada_paso (archivos c) tamanioPagina (S.workers c) e with
        ⟨_, igual | ⟨t, path, pc, same, suya⟩⟩ | ⟨otras, _⟩
      · exact h.actual q (igual.symm.trans hq)
      · exact (tomada t path pc same).trans (suya.symm.trans hq)
      · exact (otras mismas).elim
    · exact nomatch libre.symm.trans hq
  · intro arriba
    rw [ejecutar_workers, Function.update_self] at arriba
    rcases caso with ⟨mismas, libre⟩ | ⟨_, abajo⟩
    · have antes : (S.workers c).hayInterrupcion = true := by simpa [hay, libre] using arriba
      rw [origenes, ejecutar_master, entregar_misma mismas]
      simpa [libre] using h.arriba antes
    · exact nomatch abajo.symm.trans arriba
  · intro abajo
    rw [ejecutar_workers, Function.update_self] at abajo
    rw [origenes]
    cases libre : interrumpida (S.workers c) e with
    | some q => simp
    | none => simpa using h.abajo (by simpa [hay, libre] using abajo)
  · rw [ejecutar_workers, ejecutar_leida, Function.update_self]
    intro leida
    exact h.leida (avisada ▸ leida)

theorem alDia_otra {o : Nat} (h : AlDia S o) (e : WorkerInterprete.Evento) (otra : o ≠ c) :
    AlDia (ejecutar archivos tamanioPagina S c e) o := by
  apply alDia_avanza h
  · rw [ejecutar_workers, Function.update_of_ne otra]
  · rw [ejecutar_leida]
  · simp [ejecutar_origenes, otra]
  · rw [ejecutar_master, entregar, conexiones_ajena otra]
    exact avanza_refl _

theorem hay_of_interrumpida {w : Worker} {e : WorkerInterprete.Evento}
    (h : interrumpida w e = some q) : w.hayInterrupcion = true := by
  unfold interrumpida at h
  split at h
  · split at h
    · assumption
    · contradiction
  · contradiction

theorem propias_ejecutar (h : AlDia S c) (e : WorkerInterprete.Evento) (bien : SalidasPropias S) :
    SalidasPropias (ejecutar archivos tamanioPagina S c e) := by
  intro x hx
  rw [ejecutar_salidas] at hx
  cases sale : interrumpida (S.workers c) e with
  | none => exact bien x (by simpa [sale] using hx)
  | some q =>
    obtain ⟨hubo, todos⟩ := h.arriba (hay_of_interrumpida sale)
    have suya := h.actual q (asignada_of_interrumpida sale)
    rcases List.mem_append.mp hx with vieja | nueva
    · exact bien x vieja
    · obtain rfl : x = (q, S.origenes c) := by simpa [sale] using nueva
      refine ⟨hubo, fun o ho => ?_⟩
      exact Option.some.inj ((todos o ho).symm.trans suya)

theorem alDia_interrumpir {o : Nat} (h : ∀ c, AlDia S c) :
    AlDia (interrumpir archivos tamanioPagina S c) o := by
  unfold interrumpir
  split
  · exact h o
  · next codigo q resto pendientes =>
    split
    · exact h o
    · next noAvisada =>
      have avanza : Avanza (S.master.conexiones o) ((S.master.enConexion c fun con =>
          { con with interrupciones := resto }).conexiones o) :=
        .enConexion (avanza_refl _) c fun _ => by exact ⟨rfl, List.prefix_rfl⟩
      by_cases otra : o = c
      · subst otra
        have paso : WorkerInterprete.paso (archivos o) tamanioPagina (S.workers o)
            (.interrupcion (codigo = .workerQueryDesconectado)) =
            { S.workers o with
              queryDesconectado := codigo = .workerQueryDesconectado, avisada := true } := by
          simp [WorkerInterprete.paso, noAvisada]
        rw [paso]
        constructor
        · simp only [Function.update_self]
          exact fun t ht => actual_avanza avanza ((h o).actual t ht)
        · simp only [Function.update_self]
          exact fun hay => ⟨((h o).arriba hay).1, fun t ht =>
            actual_avanza avanza (((h o).arriba hay).2 t ht)⟩
        · simp only [Function.update_self]
          exact (h o).abajo
        · simp
      · exact alDia_avanza (h o) (Function.update_of_ne otra ..) (Function.update_of_ne otra ..)
          rfl avanza

theorem alDia_marcar {o : Nat} (h : ∀ c, AlDia S c)
    (guarda : ∀ q, S.leida c = some q → actual (S.master.conexiones c) = some q) :
    AlDia (marcar archivos tamanioPagina S c) o := by
  unfold marcar
  split
  · next avisada =>
    by_cases otra : o = c
    · subst otra
      obtain ⟨q, leida⟩ := (h o).leida avisada
      have paso : WorkerInterprete.paso (archivos o) tamanioPagina (S.workers o) .marca =
          { S.workers o with hayInterrupcion := true, avisada := false } := by
        simp [WorkerInterprete.paso, avisada]
      rw [paso]
      constructor
      · simp only [Function.update_self]
        exact (h o).actual
      · intro _
        simp only [Function.update_self, leida, Option.toList_some]
        refine ⟨by simp, fun t ht => ?_⟩
        rcases List.mem_append.mp ht with vieja | nueva
        · cases hay : (S.workers o).hayInterrupcion with
          | true => exact ((h o).arriba hay).2 t vieja
          | false => simp [(h o).abajo hay] at vieja
        · rw [List.mem_singleton.mp nueva]
          exact guarda q leida
      · simp
      · simp
    · exact alDia_avanza (h o) (Function.update_of_ne otra ..) (Function.update_of_ne otra ..)
        (Function.update_of_ne otra ..) (avanza_refl _)
  · exact h o

theorem ejecucion_dice {ev : Evento} {e : WorkerInterprete.Evento}
    (h : ejecucion S ev = some (c, e)) :
    (∀ desconectado, e ≠ .interrupcion desconectado) ∧ e ≠ .marca ∧
      ∀ q path pc, e = .asignacion q path pc → actual (S.master.conexiones c) = some q := by
  cases ev with
  | asigna o =>
    simp only [ejecucion, Option.bind_eq_bind, Option.bind_eq_some_iff, Option.pure_def,
      Option.some.injEq, Prod.mk.injEq] at h
    obtain ⟨a, cabeza, _, lee, rfl, rfl⟩ := h
    simp only [leerAsignacion, Option.bind_eq_bind, Option.bind_eq_some_iff, Option.pure_def,
      Option.some.injEq] at lee
    obtain ⟨q, deQ, path, _, pc, _, rfl⟩ := lee
    refine ⟨by simp, by simp, ?_⟩
    rintro t _ _ same
    cases same
    simp [actual, cabeza, deQ]
  | avance | respuesta | pagina =>
    simp only [ejecucion, Option.some.injEq, Prod.mk.injEq] at h
    obtain ⟨_, rfl⟩ := h
    exact ⟨by simp, by simp, by simp⟩
  | master | interrumpe | marca => simp [ejecucion] at h

theorem alDia_paso (e : Evento) (h : ∀ c, AlDia S c) (guarda : oportuno archivos S e = true)
    (c : Nat) : AlDia (paso config archivos tamanioPagina S e) c := by
  unfold oportuno at guarda
  unfold paso
  cases ejecuta : ejecucion S e with
  | some orden =>
    obtain ⟨o, e'⟩ := orden
    obtain ⟨otra, noMarca, tomada⟩ := ejecucion_dice ejecuta
    by_cases propia : c = o
    · subst propia
      refine alDia_ejecutar (h c) otra noMarca tomada fun arriba => ?_
      simpa [ejecuta, arriba] using guarda
    · exact alDia_otra (h c) e' propia
  | none =>
    cases e with
    | master e => exact alDia_pasoMaster (h c) e
    | interrumpe o => exact alDia_interrumpir h
    | marca o =>
      refine alDia_marcar h fun q leida => ?_
      simpa [ejecuta, leida] using guarda
    | _ => exact h c

theorem propias_paso (e : Evento) (h : ∀ c, AlDia S c) (bien : SalidasPropias S) :
    SalidasPropias (paso config archivos tamanioPagina S e) := by
  unfold paso
  cases ejecucion S e with
  | some orden => exact propias_ejecutar (h orden.1) orden.2 bien
  | none =>
    cases e with
    | master e =>
      have mismas : (pasoMaster config S e).salidas = S.salidas := by
        cases e <;> rfl
      simpa only [SalidasPropias, mismas] using bien
    | interrumpe o =>
      have mismas : (interrumpir archivos tamanioPagina S o).salidas = S.salidas := by
        unfold interrumpir
        split
        · rfl
        · split <;> rfl
      simpa only [SalidasPropias, mismas] using bien
    | marca o =>
      have mismas : (marcar archivos tamanioPagina S o).salidas = S.salidas := by
        unfold marcar
        split <;> rfl
      simpa only [SalidasPropias, mismas] using bien
    | _ => exact bien

theorem alDia_inicial (c : Nat) : AlDia inicial c := by
  constructor
  · simp [inicial, workerInicial, asignada, Hilo.asignada]
  · simp [inicial, workerInicial]
  · simp [inicial]
  · simp [inicial, workerInicial]

variable (config archivos tamanioPagina) in
/-- In every run whose flags come up in time and come down with their assignment, a Worker
    leaves a query only because of interruptions issued for that query. -/
theorem solo_interrupciones_propias {es : List Evento}
    (h : Along (paso config archivos tamanioPagina) (fun S e => oportuno archivos S e = true)
      inicial es) {pre : List Evento} (corta : pre <+: es) :
    SalidasPropias (pre.foldl (paso config archivos tamanioPagina) inicial) := by
  refine (invariant_on_prefixes (fun S => (∀ c, AlDia S c) ∧ SalidasPropias S) ?_
    ⟨alDia_inicial, by simp [SalidasPropias, inicial]⟩ h pre corta).2
  rintro S e ⟨alDia, bien⟩ guarda
  exact ⟨alDia_paso e alDia guarda, propias_paso e alDia bien⟩

def dosArchivos (_ : Nat) (path : String) : Option (List Decode) :=
  if path = "corta" then some [] else some [.ejecuta .create ⟨"F", "T", 0, 0, "", "", "", "", ""⟩]

def enMarcha (path : String) : List MasterHilos.Evento :=
  [.conectaWorker 1, .despacho 0, .despacho 0, .conectaInterrupcion 0, .llega path 5 0,
    .consulta 0, .consulta 0, .consulta 0] ++ List.replicate 6 (.despacho 0)

def llegaOtra : List MasterHilos.Evento :=
  [.llega "larga" 1 0, .consulta 1, .consulta 1, .consulta 1, .consulta 1]

def desalojoDecidido (path : String) : List Evento :=
  (enMarcha path).map .master ++ .asigna 0 :: llegaOtra.map .master

def llegaATiempo : List Evento :=
  desalojoDecidido "larga" ++ [.interrumpe 0, .marca 0, .avance 0, .respuesta 0 true, .avance 0]

theorem solo_interrupciones_propias_a_tiempo :
    SalidasPropias (llegaATiempo.foldl (paso ⟨.prioridades, 0⟩ dosArchivos 16) inicial) :=
  have enTiempo : Along (paso ⟨.prioridades, 0⟩ dosArchivos 16)
      (fun S e => oportuno dosArchivos S e = true) inicial llegaATiempo := by decide
  solo_interrupciones_propias _ _ _ enTiempo List.prefix_rfl

/-- Query 0 ends before the interruption is read, and query 1 takes its place. -/
def llegaTarde : List Evento :=
  desalojoDecidido "corta" ++ .avance 0 :: List.replicate 8 (.master (.despacho 0)) ++
    [.asigna 0, .avance 0, .respuesta 0 true, .interrumpe 0, .marca 0, .avance 0]

theorem interrupcion_tardia_alcanza_a_otra :
    let S := llegaTarde.foldl (paso ⟨.prioridades, 0⟩ dosArchivos 16) inicial
    S.salidas = [(1, [0])] ∧ ¬ SalidasPropias S := by
  decide

end SistemaInterrupciones
