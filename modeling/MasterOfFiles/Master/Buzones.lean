import MasterOfFiles.Master.Marcos

/-!
The Master never looks at what it has sent to a Worker and the Worker has not read yet. Its
steps are the same whatever is on its way.
-/
namespace MasterBuzones
open Mensajes MasterEstado MasterManejo MasterHilos

variable {config : Config} {s t : Master} {c : Nat} {q : Int}
  {A : Nat → List Paquete} {I : Nat → List (OpCode × Int)}

def conBuzones (s : Master) (A : Nat → List Paquete) (I : Nat → List (OpCode × Int)) : Master :=
  { s with
    conexiones := fun c => { s.conexiones c with asignaciones := A c, interrupciones := I c } }

theorem conBuzones_propios (s : Master) :
    conBuzones s (fun c => (s.conexiones c).asignaciones)
      (fun c => (s.conexiones c).interrupciones) = s := rfl

theorem enConexion_buzones (same : t = conBuzones s A I) (c : Nat) {f : Conexion → Conexion}
    (ajena : ∀ con a i, f { con with asignaciones := a, interrupciones := i } =
      { f con with asignaciones := a, interrupciones := i }) :
    t.enConexion c f = conBuzones (s.enConexion c f) A I := by
  subst same
  simp only [Master.enConexion, conBuzones, Master.mk.injEq, true_and, and_true]
  funext o
  by_cases h : o = c
  · subst h
    simp only [Function.update_self]
    exact ajena _ _ _
  · simp [h]

theorem conBuzones_avisos (c : Nat) (i : List (OpCode × Int)) :
    conBuzones (s.enConexion c fun con => { con with interrupciones := i }) A I =
      conBuzones s A I := by
  simp only [Master.enConexion, conBuzones, Master.mk.injEq, true_and, and_true]
  funext o
  by_cases h : o = c
  · subst h
    simp
  · simp [h]

theorem pasaA_buzones (same : t = conBuzones s A I) (c : Nat) (d : Despachador) :
    t.pasaA c d = conBuzones (s.pasaA c d) A I :=
  enConexion_buzones same c fun _ _ _ => rfl

theorem vigilantePasaA_buzones (same : t = conBuzones s A I) (c : Nat) (v : Vigilante) :
    t.vigilantePasaA c v = conBuzones (s.vigilantePasaA c v) A I :=
  enConexion_buzones same c fun _ _ _ => rfl

theorem manejar_buzones (lee : Option Manejo) :
    manejar (conBuzones s A I) c q lee = conBuzones (manejar s c q lee) A I := by
  unfold manejar
  have corren : (conBuzones s A I).queryEnWorker = s.queryEnWorker := rfl
  cases lee with
  | none => exact pasaA_buzones (by rfl) c _
  | some lee =>
    cases lee with
    | desconocida => exact pasaA_buzones (by rfl) c _
    | lectura id pc respuesta =>
      dsimp only
      rw [corren]
      split
      · rfl
      · exact pasaA_buzones (by rfl) c _
    | completar | reencolar | desconectada =>
      dsimp only
      rw [corren]
      split <;> exact pasaA_buzones (by rfl) c _

theorem workerSeFue_buzones :
    workerSeFue (conBuzones s A I) c = conBuzones (workerSeFue s c) A I := by
  have hallado : obtenerPorIdWorker (conBuzones s A I) ((conBuzones s A I).conexiones c).id =
      obtenerPorIdWorker s (s.conexiones c).id := rfl
  unfold workerSeFue
  rw [hallado]
  split
  · refine pasaA_buzones (enConexion_buzones (by rfl) _ ?_) c _
    exact fun _ _ _ => rfl
  · exact pasaA_buzones (by rfl) c _

theorem atenderWorker_buzones :
    atenderWorker (conBuzones s A I) c q = conBuzones (atenderWorker s c q) A I := by
  have terminada : Conexion.terminada ((conBuzones s A I).conexiones c) =
      Conexion.terminada (s.conexiones c) := rfl
  have entrada : ((conBuzones s A I).conexiones c).entrada = (s.conexiones c).entrada := rfl
  unfold atenderWorker
  dsimp only
  rw [terminada, entrada]
  split
  · exact workerSeFue_buzones
  · split
    · rfl
    · rw [enConexion_buzones (by rfl) c]
      · exact manejar_buzones _
      · exact fun _ _ _ => rfl

theorem despachar_buzones
    (sinAsignar : ∀ idWorker q, (s.conexiones c).despachador ≠ .agregada idWorker q) :
    despachar config (conBuzones s A I) c = conBuzones (despachar config s c) A I := by
  have despachador : ((conBuzones s A I).conexiones c).despachador =
      (s.conexiones c).despachador := rfl
  unfold despachar
  rw [despachador]
  cases h : (s.conexiones c).despachador with
  | agregada idWorker q => exact (sinAsignar idWorker q h).elim
  | atendiendo q => exact atenderWorker_buzones
  | esperaToken idWorker =>
    have tokens : (conBuzones s A I).semQueries = s.semQueries := rfl
    dsimp only
    rw [tokens]
    split
    · rfl
    · exact pasaA_buzones (by rfl) c _
  | conToken idWorker =>
    have hallado : obtenerPorIdWorker (conBuzones s A I) ((conBuzones s A I).conexiones c).id =
      obtenerPorIdWorker s (s.conexiones c).id := rfl
    have fuera (o : Nat) : ((conBuzones s A I).conexiones o).desconection =
      (s.conexiones o).desconection := rfl
    dsimp only
    simp only [hallado, fuera]
    split
    · exact pasaA_buzones (by rfl) c _
    · split <;> exact pasaA_buzones (by rfl) c _
  | invalido worker =>
    cases worker with
    | none => exact pasaA_buzones (by rfl) c _
    | some o =>
      refine pasaA_buzones (enConexion_buzones (by rfl) o ?_) c _
      exact fun _ _ _ => rfl
  | validado idWorker =>
    have toma : tomarDeCola config (conBuzones s A I) = tomarDeCola config s := rfl
    dsimp only
    rw [toma]
    split <;> exact pasaA_buzones (by rfl) c _
  | ninguno | abandonada | roto | fin => rfl
  | _ => exact pasaA_buzones (by rfl) c _

theorem vigilar_buzones :
    vigilar (conBuzones s A I) c = conBuzones (vigilar s c) A I := by
  have vigilante : ((conBuzones s A I).conexiones c).vigilante =
      (s.conexiones c).vigilante := rfl
  unfold vigilar
  rw [vigilante]
  cases (s.conexiones c).vigilante with
  | vigilando o =>
    have cerrada : ((conBuzones s A I).conexiones c).cerrada = (s.conexiones c).cerrada := rfl
    dsimp only
    rw [cerrada]
    split
    · refine vigilantePasaA_buzones (enConexion_buzones (by rfl) o ?_) c _
      exact fun _ _ _ => rfl
    · rfl
  | esperando o =>
    have tokens : ((conBuzones s A I).conexiones o).desconexionWorker =
      (s.conexiones o).desconexionWorker := rfl
    dsimp only
    rw [tokens]
    split
    · rfl
    · refine vigilantePasaA_buzones (enConexion_buzones (by rfl) o ?_) c _
      exact fun _ _ _ => rfl
  | descontado o =>
    have hallada : obtenerQueryPorIdWorker (conBuzones s A I)
        ((conBuzones s A I).conexiones o).id = obtenerQueryPorIdWorker s (s.conexiones o).id := rfl
    dsimp only
    rw [hallada]
    split <;> exact vigilantePasaA_buzones (by rfl) c _
  | ninguno | terminado => rfl
  | _ => exact vigilantePasaA_buzones (by rfl) c _

theorem atenderWorkerInterrupt_buzones :
    atenderWorkerInterrupt (conBuzones s A I) c = conBuzones (atenderWorkerInterrupt s c) A I := by
  have vigilante : ((conBuzones s A I).conexiones c).vigilante =
      (s.conexiones c).vigilante := rfl
  have hallado : obtenerPorIdWorker (conBuzones s A I) ((conBuzones s A I).conexiones c).id =
      obtenerPorIdWorker s (s.conexiones c).id := rfl
  unfold atenderWorkerInterrupt
  rw [vigilante, hallado]
  split
  · refine vigilantePasaA_buzones (enConexion_buzones (by rfl) _ ?_) c _
    exact fun _ _ _ => rfl
  · rfl

/-- The step is the same whatever is on the way, and the interruptions it sends are preemptions. -/
def Desatiende (f : Master → Master) (s : Master) : Prop :=
  ∀ A I, ∃ I', f (conBuzones s A I) = conBuzones (f s) A I' ∧
    ∀ c i, i ∈ I' c → i ∈ I c ∨ i.1 = .workerDesalojo

theorem desatiende_of_igual {f : Master → Master}
    (h : ∀ A I, f (conBuzones s A I) = conBuzones (f s) A I) : Desatiende f s :=
  fun A I => ⟨I, h A I, fun _ _ hi => .inl hi⟩

theorem desatiende_asignaciones {f : Master → Master} (h : Desatiende f s) (c : Nat) :
    ((f s).conexiones c).asignaciones = (s.conexiones c).asignaciones := by
  obtain ⟨I', same, _⟩ := h (fun c => (s.conexiones c).asignaciones)
    fun c => (s.conexiones c).interrupciones
  rw [conBuzones_propios] at same
  rw [same]
  rfl

theorem desatiende_interrupciones {f : Master → Master} (h : Desatiende f s) {c : Nat}
    {i : OpCode × Int} (hi : i ∈ ((f s).conexiones c).interrupciones) :
    i ∈ (s.conexiones c).interrupciones ∨ i.1 = .workerDesalojo := by
  obtain ⟨I', same, solo⟩ := h (fun c => (s.conexiones c).asignaciones)
    fun c => (s.conexiones c).interrupciones
  rw [conBuzones_propios] at same
  rw [same] at hi
  exact solo c i hi

theorem realizarDesalojo_desatiende (d : Desalojo) :
    Desatiende (fun s => realizarDesalojo s d .workerDesalojo) s := by
  intro A I
  have hallado : obtenerPorIdWorker (conBuzones s A I) d.idWorker =
      obtenerPorIdWorker s d.idWorker := rfl
  have socket (o : Nat) : ((conBuzones s A I).conexiones o).conInterrupcion =
      (s.conexiones o).conInterrupcion := rfl
  unfold realizarDesalojo
  simp only [hallado, socket]
  split
  · exact ⟨I, rfl, fun _ _ hi => .inl hi⟩
  · next o _ =>
    split
    · refine ⟨Function.update I o (I o ++ [(.workerDesalojo, d.idQuery)]), ?_, ?_⟩
      · simp only [Master.enConexion, conBuzones, Master.mk.injEq, true_and, and_true]
        funext c
        by_cases h : c = o
        · subst h
          simp
        · simp [h]
      · intro c i hi
        by_cases h : c = o
        · subst h
          rw [Function.update_self] at hi
          rcases List.mem_append.mp hi with vieja | nueva
          · exact .inl vieja
          · exact .inr (congrArg Prod.fst (List.mem_singleton.mp nueva))
        · rw [Function.update_of_ne h] at hi
          exact .inl hi
    · exact ⟨I, rfl, fun _ _ hi => .inl hi⟩

theorem atenderQuery_desatiende : Desatiende (fun s => atenderQuery config s q) s := by
  intro A I
  have llegada : (conBuzones s A I).llegadas = s.llegadas := rfl
  unfold atenderQuery
  dsimp only
  rw [llegada]
  cases s.llegadas q with
  | decidida d =>
    obtain ⟨I', same, solo⟩ := realizarDesalojo_desatiende (s := s) d A I
    refine ⟨I', ?_, solo⟩
    dsimp only at same ⊢
    rw [same]
    rfl
  | encolada =>
    refine ⟨I, ?_, fun _ _ hi => .inl hi⟩
    cases config.algoritmo with
    | fifo => rfl
    | prioridades =>
      cases h : chequeadorDesalojo { s with timers := Function.update s.timers q .durmiendo }
          (s.queries q).prioridad with
      | none | some d =>
        have igual := h
        change chequeadorDesalojo { conBuzones s A I with
          llegadas := s.llegadas
          timers := Function.update (conBuzones s A I).timers q .durmiendo }
          ((conBuzones s A I).queries q).prioridad = _ at igual
        simp only [igual]
        rfl
  | _ => exact ⟨I, rfl, fun _ _ hi => .inl hi⟩

theorem atenderTimerQuery_desatiende : Desatiende (fun s => atenderTimerQuery config s q) s := by
  intro A I
  have timers : (conBuzones s A I).timers = s.timers := rfl
  have queries : (conBuzones s A I).queries = s.queries := rfl
  have chequea (prioridad : Int) : chequeadorDesalojo (conBuzones s A I) prioridad =
      chequeadorDesalojo s prioridad := rfl
  unfold atenderTimerQuery
  dsimp only
  simp only [timers, queries, chequea]
  cases s.timers q with
  | decidido d =>
    obtain ⟨I', same, solo⟩ := realizarDesalojo_desatiende (s := s) d A I
    refine ⟨I', ?_, solo⟩
    dsimp only at same ⊢
    rw [same]
    rfl
  | durmiendo =>
    refine ⟨I, ?_, fun _ _ hi => .inl hi⟩
    dsimp only
    split
    · rfl
    · split
      · rfl
      · split <;> rfl
  | revisando =>
    refine ⟨I, ?_, fun _ _ hi => .inl hi⟩
    dsimp only
    split
    · rfl
    · split <;> rfl
  | chequeando =>
    refine ⟨I, ?_, fun _ _ hi => .inl hi⟩
    dsimp only
    split <;> rfl
  | esperando =>
    refine ⟨I, ?_, fun _ _ hi => .inl hi⟩
    dsimp only
    split <;> rfl
  | _ => exact ⟨I, rfl, fun _ _ hi => .inl hi⟩

theorem atenderDesconexionQuery_desatiende (sinDesalojo : ∀ d, s.vigias q ≠ .desalojando d) :
    Desatiende (fun s => atenderDesconexionQuery config s q) s := by
  refine desatiende_of_igual fun A I => ?_
  have vigias : (conBuzones s A I).vigias = s.vigias := rfl
  have queries : (conBuzones s A I).queries = s.queries := rfl
  have cerrada : (conBuzones s A I).queryCerrada = s.queryCerrada := rfl
  unfold atenderDesconexionQuery
  dsimp only
  simp only [vigias, queries, cerrada]
  cases h : s.vigias q with
  | desalojando d => exact (sinDesalojo d h).elim
  | pendiente | avisada | evaluada =>
    dsimp only
    split <;> rfl
  | _ => rfl

theorem paso_desatiende {e : Evento} (noConecta : ∀ id, e ≠ .conectaWorker id)
    (noInforma : ∀ c m, e ≠ .reporta c m)
    (sinAsignar : ∀ c idWorker q, e = .despacho c →
      (s.conexiones c).despachador ≠ .agregada idWorker q)
    (sinDesalojo : ∀ q d, s.vigias q ≠ .desalojando d) :
    Desatiende (fun s => paso config s e) s := by
  cases e with
  | conectaWorker id => exact (noConecta id rfl).elim
  | reporta c m => exact (noInforma c m rfl).elim
  | conectaInterrupcion c => exact desatiende_of_igual fun _ _ => atenderWorkerInterrupt_buzones
  | cierraWorker c =>
    refine desatiende_of_igual fun A I => ?_
    simp only [paso]
    exact enConexion_buzones rfl c fun _ _ _ => rfl
  | despacho c =>
    exact desatiende_of_igual fun _ _ =>
      despachar_buzones fun idWorker q => sinAsignar c idWorker q rfl
  | vigilante c => exact desatiende_of_igual fun _ _ => vigilar_buzones
  | llega path prioridad basura => exact desatiende_of_igual fun _ _ => rfl
  | consulta q => exact atenderQuery_desatiende
  | timer q => exact atenderTimerQuery_desatiende
  | cierraQuery q => exact desatiende_of_igual fun _ _ => rfl
  | desconexion q => exact atenderDesconexionQuery_desatiende (sinDesalojo q)

theorem asigna_buzones {idWorker : Int} (en : (s.conexiones c).despachador = .agregada idWorker q) :
    despachar config (conBuzones s A I) c = conBuzones (despachar config s c)
      (Function.update A c (A c ++ [workerAssignQuery q (s.queries q)])) I := by
  have tambien : ((conBuzones s A I).conexiones c).despachador = .agregada idWorker q := en
  simp only [despachar, en, tambien]
  simp only [Master.enConexion, conBuzones, Master.mk.injEq, true_and, and_true]
  funext o
  by_cases h : o = c
  · subst h
    simp
  · simp [h]

theorem asigna_asignaciones {idWorker : Int}
    (en : (s.conexiones c).despachador = .agregada idWorker q) (o : Nat) :
    ((despachar config s c).conexiones o).asignaciones =
      if o = c then (s.conexiones c).asignaciones ++ [workerAssignQuery q (s.queries q)]
      else (s.conexiones o).asignaciones := by
  simp only [despachar, en]
  by_cases h : o = c
  · subst h
    simp [Master.enConexion]
  · simp [Master.enConexion, h]

theorem conectarWorker_buzones (id : Int) :
    conectarWorker (conBuzones s A I) id = conBuzones (conectarWorker s id)
      (Function.update A s.cantidadConexiones []) (Function.update I s.cantidadConexiones []) := by
  simp only [conectarWorker, conBuzones, Master.mk.injEq, true_and, and_true]
  funext o
  by_cases h : o = s.cantidadConexiones
  · subst h
    simp [Conexion.nueva]
  · simp [h]

theorem reportar_buzones (m : Paquete) : reportar (conBuzones s A I) c m =
    conBuzones (s.enConexion c fun con => { con with entrada := con.entrada ++ [m] })
      (Function.update A c (if m.terminaAsignacion then (A c).tail else A c)) I := by
  simp only [reportar, Master.enConexion, conBuzones, Master.mk.injEq, true_and, and_true]
  funext o
  by_cases h : o = c
  · subst h
    simp
  · simp [h]

end MasterBuzones
