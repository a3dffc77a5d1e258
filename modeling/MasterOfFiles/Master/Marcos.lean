import MasterOfFiles.Master.Hilos

/-!
What each thread of the Master leaves alone: the arrivals, the lists of the others, the
dispatchers of other connections, the responses already sent.
-/
namespace MasterMarcos
open Mensajes MasterEstado MasterManejo MasterHilos

variable {config : Config} {s s' : Master} {c : Nat} {q : Int}

/-- The parts of the state that only the arrival of a query, of a Worker or the loss of a
    Query Control touch. -/
def registro (s : Master) :
    (Int → Llegada) × Int × Nat × (Int → Vigia) × (Int → Bool) :=
  (s.llegadas, s.idQuery, s.cantidadConexiones, s.vigias, s.queryCerrada)

theorem manejar_registro (lee : Option Manejo) :
    registro (manejar s c q lee) = registro s := by
  unfold manejar
  split
  all_goals first | rfl | (split <;> rfl)

theorem atenderWorker_registro : registro (atenderWorker s c q) = registro s := by
  unfold atenderWorker
  dsimp only
  split
  · unfold workerSeFue
    split <;> rfl
  · split
    · rfl
    · exact manejar_registro _

theorem despachar_registro : registro (despachar config s c) = registro s := by
  unfold despachar
  cases (s.conexiones c).despachador with
  | esperaToken idWorker =>
    dsimp only
    split <;> rfl
  | conToken idWorker =>
    dsimp only
    split
    · rfl
    · split <;> rfl
  | invalido worker => cases worker <;> rfl
  | validado idWorker =>
    dsimp only
    split <;> rfl
  | atendiendo q => exact atenderWorker_registro
  | _ => rfl

theorem vigilar_registro : registro (vigilar s c) = registro s := by
  unfold vigilar
  cases (s.conexiones c).vigilante with
  | vigilando o | descontado o | esperando o =>
    dsimp only
    split <;> rfl
  | _ => rfl

theorem realizarDesalojo_registro (s : Master) (d : Desalojo) (codOp : OpCode) :
    registro (realizarDesalojo s d codOp) = registro s := by
  unfold realizarDesalojo
  split
  · rfl
  · split <;> rfl

theorem atenderTimerQuery_registro : registro (atenderTimerQuery config s q) = registro s := by
  unfold atenderTimerQuery
  dsimp only
  split
  · split
    · rfl
    · split
      · rfl
      · split <;> rfl
  · split <;> rfl
  · exact realizarDesalojo_registro s _ _
  · split
    · rfl
    · split <;> rfl
  · split <;> rfl
  all_goals rfl

theorem atenderWorkerInterrupt_registro :
    registro (atenderWorkerInterrupt s c) = registro s := by
  unfold atenderWorkerInterrupt
  split <;> rfl

theorem proy_enConexion {α : Type*} (p : Conexion → α) {f : Conexion → Conexion} (o c : Nat)
    (keeps : ∀ con, p (f con) = p con) :
    p ((s.enConexion o f).conexiones c) = p (s.conexiones c) := by
  by_cases h : c = o
  · subst h
    simp [Master.enConexion, keeps]
  · simp [Master.enConexion, h]

def Conexion.sinAvisos (con : Conexion) : Conexion := { con with interrupciones := [] }

/-- The parts of the state that the threads of a query leave alone: what they touch of a
    connection are the interruptions they send. -/
def marco (s : Master) :
    Int × Nat × List Nat × List Int × Int × (Int → Bool) × (Nat → Conexion) :=
  (s.idQuery, s.cantidadConexiones, s.listaWorkers, s.queryEnWorker, s.cantidadWorkers,
    s.queryCerrada, fun c => Conexion.sinAvisos (s.conexiones c))

theorem realizarDesalojo_marco (s : Master) (d : Desalojo) (codOp : OpCode) :
    marco (realizarDesalojo s d codOp) = marco s := by
  unfold realizarDesalojo
  split
  · rfl
  · split
    · simp only [marco, Prod.mk.injEq]
      exact ⟨rfl, rfl, rfl, rfl, rfl, rfl,
        funext fun c => proy_enConexion Conexion.sinAvisos _ c fun _ => rfl⟩
    · rfl

theorem atenderQuery_marco : marco (atenderQuery config s q) = marco s := by
  unfold atenderQuery
  dsimp only
  split
  · rfl
  · split
    · rfl
    · split <;> rfl
  · exact realizarDesalojo_marco s _ _
  all_goals rfl

theorem atenderTimerQuery_marco : marco (atenderTimerQuery config s q) = marco s := by
  unfold atenderTimerQuery
  dsimp only
  split
  · split
    · rfl
    · split
      · rfl
      · split <;> rfl
  · split <;> rfl
  · exact realizarDesalojo_marco s _ _
  · split
    · rfl
    · split <;> rfl
  · split <;> rfl
  all_goals rfl

theorem atenderDesconexionQuery_marco : marco (atenderDesconexionQuery config s q) = marco s := by
  unfold atenderDesconexionQuery
  dsimp only
  split
  · split <;> rfl
  · split <;> rfl
  · exact realizarDesalojo_marco s _ _
  · split <;> rfl
  all_goals rfl

theorem sinAvisos_of_marco (same : marco s' = marco s) (c : Nat) :
    Conexion.sinAvisos (s'.conexiones c) = Conexion.sinAvisos (s.conexiones c) := by
  simp only [marco, Prod.mk.injEq] at same
  exact congrFun same.2.2.2.2.2.2 c

theorem proy_of_marco {α : Type*} (p : Conexion → α) (same : marco s' = marco s) (c : Nat)
    (ajena : ∀ con, p con = p (Conexion.sinAvisos con)) :
    p (s'.conexiones c) = p (s.conexiones c) := by
  rw [ajena, sinAvisos_of_marco same, ← ajena]

def ficha (con : Conexion) : Int × Despachador := (con.id, con.despachador)

theorem conexiones_ajena {f : Conexion → Conexion} {o : Nat} (h : c ≠ o) :
    (s.enConexion o f).conexiones c = s.conexiones c :=
  Function.update_of_ne h _ _

theorem manejar_ajena {o : Nat} (h : c ≠ o) (lee : Option Manejo) :
    (manejar s o q lee).conexiones c = s.conexiones c := by
  unfold manejar
  split
  · exact conexiones_ajena h
  · exact conexiones_ajena h
  · split
    · rfl
    · exact conexiones_ajena h
  all_goals split <;> exact conexiones_ajena h

theorem despachar_ajena {o : Nat} (h : c ≠ o) :
    ficha ((despachar config s o).conexiones c) = ficha (s.conexiones c) := by
  have mueve (s' : Master) (d : Despachador) (same : s'.conexiones = s.conexiones) :
      ficha ((s'.pasaA o d).conexiones c) = ficha (s.conexiones c) := by
    rw [← same]
    exact congrArg ficha (conexiones_ajena h)
  unfold despachar
  cases (s.conexiones o).despachador with
  | esperaToken idWorker =>
    dsimp only
    split
    · rfl
    · exact mueve _ _ rfl
  | conToken idWorker =>
    dsimp only
    split
    · exact mueve _ _ rfl
    · split <;> exact mueve _ _ rfl
  | invalido worker =>
    cases worker with
    | none => exact mueve _ _ rfl
    | some w =>
      refine (congrArg ficha (conexiones_ajena h)).trans ?_
      exact proy_enConexion ficha w c fun _ => rfl
  | validado idWorker =>
    dsimp only
    split <;> exact mueve _ _ rfl
  | agregada idWorker q => exact congrArg ficha (conexiones_ajena h)
  | atendiendo q =>
    dsimp only [atenderWorker]
    split
    · unfold workerSeFue
      split
      · refine (congrArg ficha (conexiones_ajena h)).trans ?_
        exact proy_enConexion ficha _ c fun _ => rfl
      · exact mueve _ _ rfl
    · split
      · rfl
      · rw [manejar_ajena h, conexiones_ajena h]
  | ninguno | abandonada q | roto q | fin => rfl
  | _ => exact mueve _ _ rfl

structure Avanza (con con' : Conexion) : Prop where
  id : con'.id = con.id
  asignaciones : con.asignaciones <+: con'.asignaciones

theorem avanza_refl (con : Conexion) : Avanza con con := ⟨rfl, List.prefix_rfl⟩

theorem Avanza.trans {con con' con'' : Conexion} (h : Avanza con con') (h' : Avanza con' con'') :
    Avanza con con'' :=
  ⟨h'.id.trans h.id, h.asignaciones.trans h'.asignaciones⟩

theorem Avanza.enConexion {con : Conexion} {f : Conexion → Conexion}
    (antes : Avanza con (s.conexiones c)) (o : Nat)
    (avanza : ∀ con, Avanza con (f con)) :
    Avanza con ((s.enConexion o f).conexiones c) := by
  by_cases h : c = o
  · subst h
    simpa [Master.enConexion] using antes.trans (avanza (s.conexiones c))
  · simpa [Master.enConexion, h] using antes

theorem Avanza.pasaA {con : Conexion} (antes : Avanza con (s.conexiones c)) (o : Nat)
    (d : Despachador) : Avanza con ((s.pasaA o d).conexiones c) :=
  antes.enConexion o fun _ => by exact ⟨rfl, List.prefix_rfl⟩

theorem Avanza.vigilantePasaA {con : Conexion} (antes : Avanza con (s.conexiones c)) (o : Nat)
    (v : Vigilante) : Avanza con ((s.vigilantePasaA o v).conexiones c) :=
  antes.enConexion o fun _ => by exact ⟨rfl, List.prefix_rfl⟩

theorem manejar_avanza {o : Nat} (lee : Option Manejo) :
    Avanza (s.conexiones c) ((manejar s o q lee).conexiones c) := by
  unfold manejar
  split
  · exact .pasaA (avanza_refl _) o _
  · exact .pasaA (avanza_refl _) o _
  · split
    · exact avanza_refl _
    · exact .pasaA (avanza_refl _) o _
  all_goals split <;> exact .pasaA (avanza_refl _) o _

theorem despachar_avanza {o : Nat} :
    Avanza (s.conexiones c) ((despachar config s o).conexiones c) := by
  unfold despachar
  cases (s.conexiones o).despachador with
  | esperaToken idWorker =>
    dsimp only
    split
    · exact avanza_refl _
    · exact .pasaA (avanza_refl _) o _
  | conToken idWorker =>
    dsimp only
    split
    · exact .pasaA (avanza_refl _) o _
    · split <;> exact .pasaA (avanza_refl _) o _
  | invalido worker =>
    cases worker with
    | none => exact .pasaA (avanza_refl _) o _
    | some w =>
      have igual : Avanza (s.conexiones c)
          ({ s with semQueries := s.semQueries + 1 }.conexiones c) := avanza_refl _
      exact .pasaA (igual.enConexion w fun _ => by exact ⟨rfl, List.prefix_rfl⟩) o _
  | validado idWorker =>
    dsimp only
    split <;> exact .pasaA (avanza_refl _) o _
  | agregada idWorker q =>
    dsimp only
    exact .enConexion (avanza_refl _) o fun _ => ⟨rfl, List.prefix_append _ _⟩
  | atendiendo q =>
    dsimp only [atenderWorker]
    split
    · unfold workerSeFue
      split
      · refine .pasaA ?_ o _
        exact .enConexion (avanza_refl _) _ fun _ => by exact ⟨rfl, List.prefix_rfl⟩
      · exact .pasaA (avanza_refl _) o _
    · split
      · exact avanza_refl _
      · refine .trans ?_ (manejar_avanza _)
        exact .enConexion (avanza_refl _) o fun _ => by exact ⟨rfl, List.prefix_rfl⟩
  | ninguno | abandonada q | roto q | fin => exact avanza_refl _
  | _ => exact .pasaA (avanza_refl _) o _

theorem vigilar_avanza {o : Nat} : Avanza (s.conexiones c) ((vigilar s o).conexiones c) := by
  unfold vigilar
  cases (s.conexiones o).vigilante with
  | vigilando w =>
    dsimp only
    split
    · refine .vigilantePasaA ?_ o _
      exact .enConexion (avanza_refl _) w fun _ => by exact ⟨rfl, List.prefix_rfl⟩
    · exact avanza_refl _
  | esperando w =>
    dsimp only
    split
    · exact avanza_refl _
    · refine .vigilantePasaA ?_ o _
      exact .enConexion (avanza_refl _) w fun _ => by exact ⟨rfl, List.prefix_rfl⟩
  | descontado w =>
    dsimp only
    split <;> exact .vigilantePasaA (avanza_refl _) o _
  | marcado w | avisando w q | liberado w => exact .vigilantePasaA (avanza_refl _) o _
  | ninguno | terminado => exact avanza_refl _

theorem avanza_of_marco (same : marco s' = marco s) (c : Nat) :
    Avanza (s.conexiones c) (s'.conexiones c) := by
  have asignaciones := proy_of_marco Conexion.asignaciones same c fun _ => rfl
  exact ⟨proy_of_marco Conexion.id same c fun _ => rfl, by simp [asignaciones]⟩

theorem paso_avanza {e : Evento} (nueva : ∀ id, e = .conectaWorker id → c ≠ s.cantidadConexiones)
    (sinInforme : ∀ o m, e ≠ .reporta o m) :
    Avanza (s.conexiones c) ((paso config s e).conexiones c) := by
  cases e with
  | conectaWorker id =>
    simpa [paso, conectarWorker, nueva id rfl] using avanza_refl (s.conexiones c)
  | conectaInterrupcion o =>
    simp only [paso, atenderWorkerInterrupt]
    split
    · refine .vigilantePasaA ?_ o _
      exact .enConexion (avanza_refl _) _ fun _ => by exact ⟨rfl, List.prefix_rfl⟩
    · exact avanza_refl _
  | cierraWorker o =>
    simp only [paso]
    exact .enConexion (avanza_refl _) o fun _ => by exact ⟨rfl, List.prefix_rfl⟩
  | reporta o m => exact (sinInforme o m rfl).elim
  | despacho o => exact despachar_avanza
  | vigilante o => exact vigilar_avanza
  | llega path prioridad basura => exact avanza_refl _
  | consulta q => exact avanza_of_marco atenderQuery_marco c
  | timer q => exact avanza_of_marco atenderTimerQuery_marco c
  | cierraQuery q => exact avanza_refl _
  | desconexion q => exact avanza_of_marco atenderDesconexionQuery_marco c

theorem vigilar_ficha {o : Nat} : ficha ((vigilar s o).conexiones c) = ficha (s.conexiones c) := by
  have pasa (s' : Master) (v : Vigilante) :
      ficha ((s'.vigilantePasaA o v).conexiones c) = ficha (s'.conexiones c) :=
    proy_enConexion ficha o c fun _ => rfl
  unfold vigilar
  cases (s.conexiones o).vigilante with
  | vigilando w | esperando w =>
    dsimp only
    split
    · first | rfl | exact (pasa _ _).trans (proy_enConexion ficha w c fun _ => rfl)
    · first | rfl | exact (pasa _ _).trans (proy_enConexion ficha w c fun _ => rfl)
  | descontado w =>
    dsimp only
    split <;> exact pasa _ _
  | marcado w | avisando w q | liberado w => exact pasa _ _
  | ninguno | terminado => rfl

theorem atenderWorkerInterrupt_ficha {o : Nat} :
    ficha ((atenderWorkerInterrupt s o).conexiones c) = ficha (s.conexiones c) := by
  unfold atenderWorkerInterrupt
  split
  · refine Eq.trans (proy_enConexion ficha o c ?_) (proy_enConexion ficha _ c ?_)
    · exact fun _ => rfl
    · exact fun _ => rfl
  · rfl

theorem ficha_ajena {e : Evento} (propio : e ≠ .despacho c)
    (nueva : ∀ id, e = .conectaWorker id → c ≠ s.cantidadConexiones) :
    ficha ((paso config s e).conexiones c) = ficha (s.conexiones c) := by
  cases e with
  | conectaWorker id => exact congrArg ficha (Function.update_of_ne (nueva id rfl) _ _)
  | conectaInterrupcion o => exact atenderWorkerInterrupt_ficha
  | cierraWorker o =>
    simp only [paso]
    exact proy_enConexion ficha o c fun _ => rfl
  | reporta o m =>
    simp only [paso, reportar]
    exact proy_enConexion ficha o c fun _ => rfl
  | despacho o => exact despachar_ajena fun h => propio (h ▸ rfl)
  | vigilante o => exact vigilar_ficha
  | llega path prioridad basura => rfl
  | consulta q => exact proy_of_marco ficha atenderQuery_marco c fun _ => rfl
  | timer q => exact proy_of_marco ficha atenderTimerQuery_marco c fun _ => rfl
  | cierraQuery q => rfl
  | desconexion q => exact proy_of_marco ficha atenderDesconexionQuery_marco c fun _ => rfl

def Crece (t t' : Query) : Prop := t'.idWorker = t.idWorker ∧ t.respuestas <+: t'.respuestas

theorem crece_refl (t : Query) : Crece t t := ⟨rfl, List.prefix_rfl⟩

theorem crece_responder (t : Query) (respuesta : Paquete) : Crece t (t.responder respuesta) :=
  ⟨rfl, List.prefix_append _ _⟩

theorem crece_update {t : Query} (q u : Int)
    (crece : Crece (s.queries q) t) :
    Crece (s.queries u) (Function.update s.queries q t u) := by
  by_cases h : u = q
  · subst h
    simpa using crece
  · simpa [h] using crece_refl (s.queries u)

variable {u : Int}

theorem manejar_crece (lee : Option Manejo) :
    Crece (s.queries u) ((manejar s c q lee).queries u) := by
  unfold manejar
  split
  · exact crece_refl _
  · exact crece_refl _
  · split
    · exact crece_update _ u ⟨rfl, List.prefix_append _ _⟩
    · exact crece_refl _
  · split <;> exact crece_refl _
  · split <;> exact crece_refl _
  · split
    · exact crece_update _ u ⟨rfl, List.prefix_rfl⟩
    · exact crece_refl _

theorem atenderWorker_crece : Crece (s.queries u) ((atenderWorker s c q).queries u) := by
  unfold atenderWorker
  dsimp only
  split
  · unfold workerSeFue
    split <;> exact crece_refl _
  · split
    · exact crece_refl _
    · exact manejar_crece _

theorem despachar_crece (otra : ∀ idWorker, (s.conexiones c).despachador ≠ .corriendo idWorker u) :
    Crece (s.queries u) ((despachar config s c).queries u) := by
  unfold despachar
  cases h : (s.conexiones c).despachador with
  | esperaToken idWorker =>
    dsimp only
    split <;> exact crece_refl _
  | conToken idWorker =>
    dsimp only
    split
    · exact crece_refl _
    · split <;> exact crece_refl _
  | invalido worker => cases worker <;> exact crece_refl _
  | validado idWorker =>
    dsimp only
    split <;> exact crece_refl _
  | sosteniendo idWorker q =>
    dsimp only
    exact crece_update q u ⟨rfl, List.prefix_rfl⟩
  | corriendo idWorker q =>
    have distinta : u ≠ q := by
      rintro rfl
      exact otra idWorker h
    simpa [Master.pasaA, Master.enConexion, Master.enQuery, distinta] using crece_refl _
  | atendiendo q => exact atenderWorker_crece
  | completando q respuesta =>
    dsimp only
    exact crece_update q u ⟨rfl, List.prefix_append _ _⟩
  | reencolando q nuevoPC =>
    dsimp only
    exact crece_update q u ⟨rfl, List.prefix_rfl⟩
  | avisando q =>
    dsimp only
    refine crece_update q u ?_
    split <;> exact ⟨rfl, List.prefix_rfl⟩
  | _ => exact crece_refl _

theorem vigilar_crece : Crece (s.queries u) ((vigilar s c).queries u) := by
  unfold vigilar
  cases (s.conexiones c).vigilante with
  | vigilando o | esperando o =>
    dsimp only
    split <;> exact crece_refl _
  | descontado o =>
    dsimp only
    split
    · exact crece_refl _
    · exact crece_update _ u ⟨rfl, List.prefix_rfl⟩
  | avisando o q =>
    dsimp only
    exact crece_update q u (crece_responder _ _)
  | _ => exact crece_refl _

theorem realizarDesalojo_queries (s : Master) (d : Desalojo) (codOp : OpCode) :
    (realizarDesalojo s d codOp).queries = s.queries := by
  unfold realizarDesalojo
  split
  · rfl
  · split <;> rfl

variable (config) in
theorem atenderQuery_queries : (atenderQuery config s q).queries = s.queries := by
  unfold atenderQuery
  dsimp only
  split
  · rfl
  · split
    · rfl
    · split <;> rfl
  · exact realizarDesalojo_queries s _ _
  all_goals rfl

variable (config) in
theorem atenderQuery_vigias : (atenderQuery config s q).vigias = s.vigias := by
  have desaloja (d : Desalojo) : (realizarDesalojo s d .workerDesalojo).vigias = s.vigias := by
    have same := realizarDesalojo_registro s d .workerDesalojo
    simp only [registro, Prod.mk.injEq] at same
    exact same.2.2.2.1
  unfold atenderQuery
  dsimp only
  split
  · rfl
  · split
    · rfl
    · split <;> rfl
  · exact desaloja _
  all_goals rfl

theorem atenderTimerQuery_crece :
    Crece (s.queries u) ((atenderTimerQuery config s q).queries u) := by
  unfold atenderTimerQuery
  dsimp only
  split
  · split
    · exact crece_update q u ⟨rfl, List.prefix_rfl⟩
    · split
      · exact crece_refl _
      · split <;> exact crece_refl _
  · split <;> exact crece_refl _
  · exact (congrFun (realizarDesalojo_queries s _ _) u) ▸ crece_refl _
  · split
    · exact crece_refl _
    · split <;> exact crece_refl _
  · split
    · exact crece_refl _
    · exact crece_update q u ⟨rfl, List.prefix_rfl⟩
  all_goals exact crece_refl _

theorem atenderDesconexionQuery_crece :
    Crece (s.queries u) ((atenderDesconexionQuery config s q).queries u) := by
  unfold atenderDesconexionQuery
  dsimp only
  split
  · split
    · exact crece_update q u ⟨rfl, List.prefix_rfl⟩
    · exact crece_refl _
  · split <;> exact crece_refl _
  · exact (congrFun (realizarDesalojo_queries s _ _) u) ▸ crece_refl _
  · split <;> exact crece_refl _
  · exact crece_refl _
  · refine crece_update q u ?_
    split <;> exact ⟨rfl, List.prefix_rfl⟩
  all_goals exact crece_refl _

theorem crece_paso {e : Evento} (vieja : u < s.idQuery)
    (otra : ∀ c idWorker, e = .despacho c →
      (s.conexiones c).despachador ≠ .corriendo idWorker u) :
    Crece (s.queries u) ((paso config s e).queries u) := by
  cases e with
  | conectaWorker id => exact crece_refl _
  | conectaInterrupcion o =>
    simp only [paso, atenderWorkerInterrupt]
    split <;> exact crece_refl _
  | cierraWorker o => exact crece_refl _
  | reporta o m => exact crece_refl _
  | despacho o => exact despachar_crece fun idWorker => otra o idWorker rfl
  | vigilante o => exact vigilar_crece
  | llega path prioridad basura =>
    have distinta : u ≠ s.idQuery := by omega
    simpa [paso, nuevaQuery, distinta] using crece_refl _
  | consulta q => exact (congrFun (atenderQuery_queries config (s := s)) u) ▸ crece_refl _
  | timer q => exact atenderTimerQuery_crece
  | cierraQuery q => exact crece_refl _
  | desconexion q => exact atenderDesconexionQuery_crece

def Puesta (l : Llegada) : Prop := l ≠ .ninguna ∧ l ≠ .creada

theorem llegadas_of_registro (same : registro s' = registro s) : s'.llegadas = s.llegadas := by
  simp only [registro, Prod.mk.injEq] at same
  exact same.1

variable (config) in
theorem atenderQuery_llegadas :
    (atenderQuery config s q).llegadas = s.llegadas ∨ s.llegadas q ≠ .ninguna ∧
      ∃ l, Puesta l ∧ (atenderQuery config s q).llegadas = Function.update s.llegadas q l := by
  unfold atenderQuery
  dsimp only
  cases h : s.llegadas q with
  | creada => exact .inr ⟨by simp, .encolada, by simp [Puesta], rfl⟩
  | encolada =>
    dsimp only
    split
    · exact .inr ⟨by simp, .porAvisar, by simp [Puesta], rfl⟩
    · split
      · exact .inr ⟨by simp, .porAvisar, by simp [Puesta], rfl⟩
      · exact .inr ⟨by simp, .decidida _, by simp [Puesta], rfl⟩
  | decidida d =>
    refine .inr ⟨by simp, .porAvisar, by simp [Puesta], ?_⟩
    have mismas := llegadas_of_registro (realizarDesalojo_registro s d .workerDesalojo)
    exact congrArg (Function.update · q Llegada.porAvisar) mismas
  | porAvisar => exact .inr ⟨by simp, .fin, by simp [Puesta], rfl⟩
  | ninguna | fin => exact .inl rfl

variable (config) in
theorem atenderDesconexionQuery_llegadas :
    (atenderDesconexionQuery config s q).llegadas = s.llegadas := by
  unfold atenderDesconexionQuery
  dsimp only
  split
  · split <;> rfl
  · split <;> rfl
  · next d _ =>
    have mismas := llegadas_of_registro (realizarDesalojo_registro s d .workerQueryDesconectado)
    exact mismas
  · split <;> rfl
  all_goals rfl

end MasterMarcos
