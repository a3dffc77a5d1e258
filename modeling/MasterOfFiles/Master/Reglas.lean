import MasterOfFiles.Master.Marcos

/-!
A rule for invariants of the Master: what its threads do to one connection and to one query.
A property of each that survives these changes survives every step.
-/
namespace MasterReglas
open Mensajes MasterEstado MasterManejo MasterHilos MasterMarcos

def Suelto : Despachador → Prop
  | .completando _ _ | .reencolando _ _ | .agregada _ _ => False
  | _ => True

structure Estable (C : Conexion → Prop) (Q : Int → Query → Prop) : Prop where
  marcas {con con' : Conexion} : C con → ficha con' = ficha con → con'.entrada = con.entrada →
    con'.asignaciones = con.asignaciones → C con'
  pasa {con : Conexion} {d : Despachador} : Suelto d → C con → C { con with despachador := d }
  consume {con : Conexion} {m : Paquete} {resto : List Paquete} : con.entrada = m :: resto →
    C con → C { con with entrada := resto }
  completa {con : Conexion} {m : Paquete} {resto : List Paquete} {q : Int} {r : Paquete} :
    con.entrada = m :: resto → manejo m = some (.completar q r) → C con →
    C { con with entrada := resto, despachador := .completando q r }
  reencola {con : Conexion} {m : Paquete} {resto : List Paquete} {q pc : Int} :
    con.entrada = m :: resto → manejo m = some (.reencolar q pc) → C con →
    C { con with entrada := resto, despachador := .reencolando q pc }
  asigna {con : Conexion} {idWorker q : Int} {t : Query} :
    con.despachador = .agregada idWorker q → C con → Q q t →
    C { con with
      asignaciones := con.asignaciones ++ [workerAssignQuery q t], despachador := .atendiendo q }
  sigue {q : Int} {t t' : Query} : Q q t → t'.path = t.path → t'.prioridad = t.prioridad →
    t'.programCounter = t.programCounter → t'.respuestas = t.respuestas → Q q t'
  baja {q : Int} {t : Query} : 0 < t.prioridad → Q q t →
    Q q { t with prioridad := t.prioridad - 1 }
  lee {con : Conexion} {m : Paquete} {resto : List Paquete} {q pc : Int} {r : Paquete}
    {t : Query} : con.entrada = m :: resto → manejo m = some (.lectura q pc r) → C con → Q q t →
    Q q (Query.responder r { t with programCounter := pc })
  responde {con : Conexion} {q : Int} {r : Paquete} {t : Query} :
    con.despachador = .completando q r → C con → Q q t → Q q (t.responder r)
  vuelve {con : Conexion} {q pc : Int} {t : Query} : con.despachador = .reencolando q pc →
    C con → Q q t → Q q { t with programCounter := pc }
  avisa {con : Conexion} {q : Int} {t : Query} : C con → Q q t →
    Q q (t.responder ⟨.queryResponseErrorWorkerDesconectado, [.entero con.id]⟩)

def Todas (C : Conexion → Prop) (Q : Int → Query → Prop) (s : Master) : Prop :=
  (∀ c, C (s.conexiones c)) ∧ ∀ q, Q q (s.queries q)

variable {config : Config} {s : Master} {c : Nat} {q : Int}
variable {C : Conexion → Prop} {Q : Int → Query → Prop}

section
variable (base : Estable C Q)

theorem todas_enConexion (h : Todas C Q s) (o : Nat) {f : Conexion → Conexion}
    (keeps : C (s.conexiones o) → C (f (s.conexiones o))) : Todas C Q (s.enConexion o f) := by
  refine ⟨fun c => ?_, h.2⟩
  by_cases same : c = o
  · subst same
    simpa [Master.enConexion] using keeps (h.1 c)
  · simpa [Master.enConexion, same] using h.1 c

theorem todas_enQuery (h : Todas C Q s) (q : Int) {f : Query → Query}
    (keeps : Q q (s.queries q) → Q q (f (s.queries q))) : Todas C Q (s.enQuery q f) := by
  refine ⟨h.1, fun u => ?_⟩
  by_cases same : u = q
  · subst same
    simpa [Master.enQuery] using keeps (h.2 u)
  · simpa [Master.enQuery, same] using h.2 u

include base

theorem Estable.pasaA (h : Todas C Q s) (c : Nat) {d : Despachador} (suelto : Suelto d) :
    Todas C Q (s.pasaA c d) :=
  todas_enConexion h c fun con => base.pasa suelto con

theorem Estable.vigilantePasaA (h : Todas C Q s) (c : Nat) (v : Vigilante) :
    Todas C Q (s.vigilantePasaA c v) :=
  todas_enConexion h c fun con => base.marcas con rfl rfl rfl

theorem Estable.sigueEn (h : Todas C Q s) (q : Int) {t : Query} {s' : Master}
    (conexiones : s'.conexiones = s.conexiones)
    (queries : s'.queries = Function.update s.queries q t)
    (path : t.path = (s.queries q).path) (prioridad : t.prioridad = (s.queries q).prioridad)
    (pc : t.programCounter = (s.queries q).programCounter)
    (respuestas : t.respuestas = (s.queries q).respuestas) : Todas C Q s' := by
  have changed : Todas C Q (s.enQuery q fun _ => t) :=
    todas_enQuery h q fun before => base.sigue before path prioridad pc respuestas
  exact ⟨conexiones ▸ changed.1, queries ▸ changed.2⟩

theorem manejar_todas (h : Todas C Q s) {m : Paquete} {resto : List Paquete}
    (there : (s.conexiones c).entrada = m :: resto) :
    Todas C Q (manejar (s.enConexion c fun con => { con with entrada := resto }) c q
      (manejo m)) := by
  have later : Todas C Q (s.enConexion c fun con => { con with entrada := resto }) :=
    todas_enConexion h c fun con => base.consume there con
  have lleva {s' : Master} {d : Despachador}
      (conexiones : s'.conexiones =
        (s.enConexion c fun con => { con with entrada := resto }).conexiones)
      (queries : s'.queries = s.queries)
      (con : C { s.conexiones c with entrada := resto, despachador := d }) :
      Todas C Q (s'.pasaA c d) := by
    have changed : Todas C Q (s.enConexion c fun con =>
        { con with entrada := resto, despachador := d }) := todas_enConexion h c fun _ => con
    have same : (s'.pasaA c d).conexiones = (s.enConexion c fun con =>
        { con with entrada := resto, despachador := d }).conexiones := by
      simp [Master.pasaA, Master.enConexion, conexiones]
    exact ⟨same ▸ changed.1, queries ▸ h.2⟩
  unfold manejar
  split
  · exact base.pasaA later c trivial
  · exact base.pasaA later c trivial
  · rename_i id pc respuesta lee
    split
    · exact todas_enQuery later id (base.lee there lee (h.1 c))
    · exact base.pasaA later c trivial
  · rename_i id respuesta lee
    split
    · exact lleva rfl rfl (base.completa there lee (h.1 c))
    · exact base.pasaA later c trivial
  · rename_i id nuevoPC lee
    split
    · exact lleva rfl rfl (base.reencola there lee (h.1 c))
    · exact base.pasaA later c trivial
  · split
    · refine base.pasaA ?_ c trivial
      exact base.sigueEn later _ rfl rfl rfl rfl rfl rfl
    · exact base.pasaA later c trivial

theorem atenderWorker_todas (h : Todas C Q s) : Todas C Q (atenderWorker s c q) := by
  unfold atenderWorker
  dsimp only
  split
  · unfold workerSeFue
    split
    · refine base.pasaA (todas_enConexion h _ ?_) c trivial
      exact fun con => base.marcas con rfl rfl rfl
    · exact base.pasaA h c trivial
  · split
    · exact h
    · rename_i m resto there
      exact manejar_todas base h there

theorem despachar_todas (h : Todas C Q s)
    (agrega : ∀ idWorker q, (s.conexiones c).despachador = .corriendo idWorker q →
      C (s.conexiones c) → C { s.conexiones c with despachador := .agregada idWorker q }) :
    Todas C Q (despachar config s c) := by
  have otra {s' : Master} {d : Despachador} (same : Todas C Q s') (suelto : Suelto d) :
      Todas C Q (s'.pasaA c d) := base.pasaA same c suelto
  unfold despachar
  cases at_ : (s.conexiones c).despachador with
  | esperaToken idWorker =>
    dsimp only
    split
    · exact h
    · exact otra h trivial
  | conToken idWorker =>
    dsimp only
    split
    · exact otra h trivial
    · split <;> exact otra h trivial
  | invalido worker =>
    cases worker with
    | none => exact otra h trivial
    | some o =>
      have avisa : Todas C Q { s with semQueries := s.semQueries + 1 } := h
      refine otra (todas_enConexion avisa o ?_) trivial
      exact fun con => base.marcas con rfl rfl rfl
  | validado idWorker =>
    dsimp only
    split <;> exact otra h trivial
  | sosteniendo idWorker q =>
    exact otra (base.sigueEn h q rfl rfl rfl rfl rfl rfl) trivial
  | corriendo idWorker q =>
    have bound : Todas C Q ({ s with queryEnWorker := s.queryEnWorker ++ [q] }.enQuery q fun t =>
        { t with idWorker := idWorker }) := base.sigueEn h q rfl rfl rfl rfl rfl rfl
    exact todas_enConexion bound c (agrega idWorker q at_)
  | agregada idWorker q =>
    exact todas_enConexion h c fun con => base.asigna at_ con (h.2 q)
  | atendiendo q => exact atenderWorker_todas base h
  | completando q respuesta =>
    have sent : Todas C Q (s.enQuery q fun t => (t.conEstado .exit).responder respuesta) :=
      todas_enQuery h q fun t =>
        base.responde at_ (h.1 c) (base.sigue t rfl rfl rfl rfl)
    exact otra sent trivial
  | reencolando q nuevoPC =>
    have back : Todas C Q (s.enQuery q fun t =>
        { t.conEstado .ready with programCounter := nuevoPC }) :=
      todas_enQuery h q fun t => base.vuelve at_ (h.1 c) (base.sigue t rfl rfl rfl rfl)
    exact otra back trivial
  | avisando q =>
    refine otra ?_ trivial
    refine base.sigueEn h q rfl rfl ?_ ?_ ?_ ?_
    all_goals cases config.algoritmo <;> rfl
  | conectada | contada | encolando q => exact otra h trivial
  | ninguno | abandonada q | roto q | fin => exact h

theorem vigilar_todas (h : Todas C Q s) : Todas C Q (vigilar s c) := by
  unfold vigilar
  cases (s.conexiones c).vigilante with
  | vigilando o | esperando o =>
    dsimp only
    split
    all_goals
      first
      | exact h
      | refine base.vigilantePasaA (todas_enConexion h o ?_) c _
        exact fun con => base.marcas con rfl rfl rfl
  | descontado o =>
    dsimp only
    split
    · exact base.vigilantePasaA h c _
    · refine base.vigilantePasaA ?_ c _
      exact base.sigueEn h _ rfl rfl rfl rfl rfl rfl
  | avisando o q =>
    exact base.vigilantePasaA (todas_enQuery h q (base.avisa (h.1 o))) c _
  | marcado o | liberado o => exact base.vigilantePasaA h c _
  | ninguno | terminado => exact h

theorem realizarDesalojo_todas (h : Todas C Q s) (d : Desalojo) (codOp : OpCode) :
    Todas C Q (realizarDesalojo s d codOp) := by
  unfold realizarDesalojo
  split
  · exact h
  · split
    · exact todas_enConexion h _ fun con => base.marcas con rfl rfl rfl
    · exact h

theorem atenderQuery_todas (h : Todas C Q s) : Todas C Q (atenderQuery config s q) := by
  unfold atenderQuery
  dsimp only
  split
  · exact h
  · split
    · exact h
    · split <;> exact h
  · exact realizarDesalojo_todas base h _ _
  all_goals exact h

theorem atenderTimerQuery_todas (h : Todas C Q s) :
    Todas C Q (atenderTimerQuery config s q) := by
  unfold atenderTimerQuery
  dsimp only
  split
  · split
    · rename_i ready
      have lower : Todas C Q (s.enQuery q fun t => { t with prioridad := t.prioridad - 1 }) :=
        todas_enQuery h q fun t => base.baja ready.2.2.1 t
      exact lower
    · split
      · exact h
      · split <;> exact h
  · split <;> exact h
  · exact realizarDesalojo_todas base h _ _
  · split
    · exact h
    · split <;> exact h
  · split
    · exact h
    · exact base.sigueEn h q rfl rfl rfl rfl rfl rfl
  all_goals exact h

theorem atenderDesconexionQuery_todas (h : Todas C Q s) :
    Todas C Q (atenderDesconexionQuery config s q) := by
  unfold atenderDesconexionQuery
  dsimp only
  split
  · split
    · exact base.sigueEn h q rfl rfl rfl rfl rfl rfl
    · exact h
  · split <;> exact h
  · exact realizarDesalojo_todas base h _ _
  · split <;> exact h
  · exact h
  · refine base.sigueEn h q rfl rfl ?_ ?_ ?_ ?_
    all_goals cases config.algoritmo <;> rfl
  all_goals exact h

theorem paso_todas (h : Todas C Q s) {e : Evento}
    (agrega : ∀ c idWorker q, e = .despacho c →
      (s.conexiones c).despachador = .corriendo idWorker q → C (s.conexiones c) →
      C { s.conexiones c with despachador := .agregada idWorker q })
    (nueva : ∀ id, e = .conectaWorker id → C (.nueva id .conectada))
    (informa : ∀ c m as, e = .reporta c m → as <:+ (s.conexiones c).asignaciones →
      C (s.conexiones c) →
      C { s.conexiones c with
        entrada := (s.conexiones c).entrada ++ [m], asignaciones := as })
    (llega : ∀ path prioridad basura, e = .llega path prioridad basura →
      Q s.idQuery ⟨path, prioridad, 0, basura, .ready, true, 0, []⟩) :
    Todas C Q (paso config s e) := by
  cases e with
  | conectaWorker id =>
    refine ⟨fun c => ?_, h.2⟩
    by_cases same : c = s.cantidadConexiones
    · subst same
      simpa [paso, conectarWorker] using nueva id rfl
    · simpa [paso, conectarWorker, same] using h.1 c
  | conectaInterrupcion c =>
    simp only [paso, atenderWorkerInterrupt]
    split
    · refine base.vigilantePasaA (todas_enConexion h _ ?_) c _
      exact fun con => base.marcas con rfl rfl rfl
    · exact h
  | cierraWorker c =>
    simp only [paso]
    exact todas_enConexion h c fun con => base.marcas con rfl rfl rfl
  | reporta c m =>
    simp only [paso, reportar]
    refine todas_enConexion h c fun con => informa c m _ rfl ?_ con
    split
    · exact List.tail_suffix _
    · exact List.suffix_rfl
  | despacho c => exact despachar_todas base h fun idWorker q => agrega c idWorker q rfl
  | vigilante c => exact vigilar_todas base h
  | llega path prioridad basura =>
    refine ⟨h.1, fun q => ?_⟩
    by_cases same : q = s.idQuery
    · subst same
      simpa [paso, nuevaQuery] using llega path prioridad basura rfl
    · simpa [paso, nuevaQuery, same] using h.2 q
  | consulta q => exact atenderQuery_todas base h
  | timer q => exact atenderTimerQuery_todas base h
  | cierraQuery q => exact h
  | desconexion q => exact atenderDesconexionQuery_todas base h

end

theorem registro_of_marco {s' : Master} (same : marco s' = marco s)
    (llegadas : s'.llegadas = s.llegadas) :
    s'.idQuery = s.idQuery ∧ ∀ q, s'.llegadas q ≠ .ninguna → s.llegadas q ≠ .ninguna := by
  simp only [marco, Prod.mk.injEq] at same
  exact ⟨same.1, fun q => by rw [llegadas]; exact id⟩

theorem paso_sinLlegar (config : Config) (s : Master) {e : Evento}
    (otro : ∀ path prioridad basura, e ≠ .llega path prioridad basura) :
    (paso config s e).idQuery = s.idQuery ∧
      ∀ q, (paso config s e).llegadas q ≠ .ninguna → s.llegadas q ≠ .ninguna := by
  have quieto {s' : Master} (h : registro s' = registro s) :
      s'.idQuery = s.idQuery ∧ ∀ q, s'.llegadas q ≠ .ninguna → s.llegadas q ≠ .ninguna := by
    simp only [registro, Prod.mk.injEq] at h
    exact ⟨h.2.1, fun q => by rw [h.1]; exact id⟩
  cases e with
  | conectaWorker idWorker => exact ⟨rfl, fun _ => id⟩
  | conectaInterrupcion c => exact quieto atenderWorkerInterrupt_registro
  | cierraWorker c => exact quieto rfl
  | reporta c m => exact quieto rfl
  | despacho c => exact quieto despachar_registro
  | vigilante c => exact quieto vigilar_registro
  | llega path prioridad basura => exact (otro path prioridad basura rfl).elim
  | consulta q =>
    simp only [paso]
    have same : marco (atenderQuery config s q) = marco s := atenderQuery_marco
    rcases atenderQuery_llegadas config (s := s) (q := q) with mismas | ⟨ya, l, _, nuevas⟩
    · exact registro_of_marco same mismas
    · simp only [marco, Prod.mk.injEq] at same
      refine ⟨same.1, fun t h => ?_⟩
      by_cases at_ : t = q
      · exact at_ ▸ ya
      · rwa [nuevas, Function.update_of_ne at_] at h
  | timer q => exact quieto atenderTimerQuery_registro
  | cierraQuery q => exact ⟨rfl, fun _ => id⟩
  | desconexion q =>
    exact registro_of_marco atenderDesconexionQuery_marco (atenderDesconexionQuery_llegadas config)

end MasterReglas
