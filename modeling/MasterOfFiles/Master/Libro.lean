import Mathlib.Algebra.BigOperators.Ring.Finset
import MasterOfFiles.Master.Conexiones
import MasterOfFiles.Master.FinDeAsignacion

/-!
The Master's books over whole runs: where each query is and which Workers the lists name.
-/
namespace MasterLibro
open Mensajes MasterEstado MasterManejo MasterHilos MasterMarcos MasterLugares MasterCuaderno
open MasterConexiones MasterFinDeAsignacion WorkerInformes GuardedRuns

/-- No watcher is on its way from the loss of a Worker to the end of its work. -/
def Quieto (s : Master) : Prop :=
  ∀ c, c < s.cantidadConexiones → (s.conexiones c).vigilante = .ninguno ∨
    (∃ o, (s.conexiones c).vigilante = .vigilando o ∧ (s.conexiones c).cerrada = false) ∨
    (s.conexiones c).vigilante = .terminado

structure LibroEnOrden (s : Master) : Prop where
  enUnLugar : ∀ q, Puesta (s.llegadas q) →
    (∀ r, r ∈ (s.queries q).respuestas → esTerminal r = false) → ∃! l, (lugares s).At q l
  unaVez : s.colaQueries.Nodup ∧ s.queryEnWorker.Nodup
  conWorker : ∀ q, q ∈ s.queryEnWorker → ∃ c, c ∈ s.listaWorkers ∧
    (s.conexiones c).id = (s.queries q).idWorker ∧ (s.conexiones c).cerrada = false ∧
    (s.conexiones c).desconection = false
  unaCadaUno : (s.queryEnWorker.map fun q => (s.queries q).idWorker).Nodup
  cantidad : s.cantidadWorkers = ((Finset.range s.cantidadConexiones).filter fun c =>
    contado (s.conexiones c).despachador ∧ (s.conexiones c).cerrada = false).card

/-- A Worker sends reads for the assignment it has, and then one end of it. -/
def Informa (s : Master) (c : Nat) (m : Paquete) : Prop :=
  ∃ a resto q, (s.conexiones c).asignaciones = a :: resto ∧ a.entero 1 = some q ∧
    (Lectura q m ∨ Cierre q m)

/-- A Worker opens its interruption socket once it is in lista_workers, and every Query
    Control waits for its query. -/
def permitido (s : Master) : Evento → Bool
  | .conectaInterrupcion c => registrada (s.conexiones c).despachador
  | .reporta _ _ => false
  | .cierraQuery _ => false
  | _ => true

def Previsto (s : Master) (e : Evento) : Prop :=
  permitido s e = true ∨ ∃ c m, e = .reporta c m ∧ Informa s c m

/-- Ids differ, a Worker is only lost once its interruption socket is watched, and its thread
    never reads the end of the connection while it waits for a report. -/
def seguro (s : Master) : Evento → Bool
  | .conectaWorker id => (List.range s.cantidadConexiones).all fun c =>
      (s.conexiones c).vigilante = .terminado || (s.conexiones c).id != id
  | .cierraWorker c => (s.conexiones c).vigilante ≠ .ninguno
  | .despacho c =>
    match (s.conexiones c).despachador with
    | .atendiendo _ => !Conexion.terminada (s.conexiones c)
    | _ => true
  | _ => true

structure Libro (s : Master) : Prop where
  enLinea : EnLinea s
  presentes : ∀ q, Puesta (s.llegadas q) → (∃ l, (lugares s).At q l) ∨
    ∃ r, r ∈ (s.queries q).respuestas ∧ esTerminal r = true
  sinBajas : ∀ q, s.queryCerrada q = false ∧
    (s.vigias q = .ninguno ∨ s.vigias q = .pendiente ∨ s.vigias q = .fin)

variable {config : Config} {s s' : Master} {c : Nat} {q : Int} {e : Evento}

theorem atento_of_seguro (h : seguro s (.despacho c) = true) : Atento s c := by
  intro q en
  simpa [seguro, en] using h

theorem nuevaQuery_lleva (inv : EnLinea s) (path : String) (prioridad basura : Int) :
    Lleva s (nuevaQuery s path prioridad basura) := by
  have ids : (fun t => (Function.update s.queries s.idQuery
      ⟨path, prioridad, 0, basura, .ready, true, 0, []⟩ t).idWorker) =
      Function.update (cuaderno s).idWorker s.idQuery basura :=
    Function.comp_update Query.idWorker s.queries s.idQuery _
  have libre (c : Nat) : ((cuaderno s).vistas c).ligada ≠ some s.idQuery := by
    intro suya
    have puesta : Puesta (s.llegadas s.idQuery) := by
      rcases ligada_at inv suya with corre | tiene
      · exact inv.ordenado.puestas _ _ corre
      · exact inv.ordenado.puestas _ _ tiene
    have := inv.ordenado.llegadas s.idQuery puesta.1
    omega
  refine ⟨inv.conexiones, ?_⟩
  simp only [cuaderno, nuevaQuery, ids]
  exact .liga s.idQuery basura libre

theorem paso_lleva (inv : EnLinea s) (previsto : Previsto s e) (guarda : seguro s e = true) :
    Lleva s (paso config s e) := by
  cases e with
  | conectaWorker id =>
    apply conectarWorker_lleva inv
    intro c en viva
    have h := List.all_eq_true.mp guarda c (List.mem_range.mpr en)
    simpa [viva] using h
  | conectaInterrupcion c =>
    rcases previsto with reg | ⟨_, _, same, _⟩
    · exact atenderWorkerInterrupt_lleva inv reg
    · contradiction
  | cierraWorker c =>
    have nueva : EnOrden c { s.conexiones c with cerrada := true } :=
      { inv.conexiones c with
        cierre := fun _ => rfl
        abierta := fun _ => by simpa [seguro] using guarda }
    exact cambia_callada inv (f := fun con => { con with cerrada := true }) nueva rfl rfl
      rfl
  | reporta c m =>
    rcases previsto with no | ⟨c, m, same, a, resto, q, tiene, suya, informa⟩
    · simp [permitido] at no
    · cases same
      exact reportar_lleva inv tiene suya informa
  | despacho c => exact despachar_lleva inv (atento_of_seguro guarda)
  | vigilante c => exact vigilar_lleva inv
  | llega path prioridad basura => exact nuevaQuery_lleva inv path prioridad basura
  | consulta q =>
    apply lleva_of_marco inv atenderQuery_marco
    intro u
    exact congrArg Query.idWorker (congrFun (atenderQuery_queries config) u)
  | timer q => exact lleva_of_marco inv atenderTimerQuery_marco fun u => atenderTimerQuery_crece.1
  | cierraQuery q => exact ⟨inv.conexiones, .nada⟩
  | desconexion q =>
    exact lleva_of_marco inv atenderDesconexionQuery_marco fun u => atenderDesconexionQuery_crece.1

theorem enLinea_paso (inv : EnLinea s) (previsto : Previsto s e) (guarda : seguro s e = true) :
    EnLinea (paso config s e) := by
  obtain ⟨conexiones, apunte⟩ := paso_lleva inv previsto guarda
  exact ⟨ordenado_paso config e inv.ordenado, conexiones, asientos_apunte inv.asientos apunte⟩

variable (config) in
theorem sinBajas_paso (inv : Libro s) (previsto : Previsto s e) (q : Int) :
    (paso config s e).queryCerrada q = false ∧ ((paso config s e).vigias q = .ninguno ∨
      (paso config s e).vigias q = .pendiente ∨ (paso config s e).vigias q = .fin) := by
  have antes := inv.sinBajas q
  have quieto {s' : Master} (same : registro s' = registro s) :
      s'.queryCerrada q = false ∧
        (s'.vigias q = .ninguno ∨ s'.vigias q = .pendiente ∨ s'.vigias q = .fin) := by
    simp only [registro, Prod.mk.injEq] at same
    rw [same.2.2.2.1, same.2.2.2.2]
    exact antes
  cases e with
  | conectaInterrupcion c => exact quieto atenderWorkerInterrupt_registro
  | despacho c => exact quieto despachar_registro
  | vigilante c => exact quieto vigilar_registro
  | timer t => exact quieto atenderTimerQuery_registro
  | llega path prioridad basura =>
    refine ⟨antes.1, ?_⟩
    by_cases h : q = s.idQuery
    · simp [paso, nuevaQuery, h]
    · simpa [paso, nuevaQuery, h] using antes.2
  | consulta t =>
    have same : marco (atenderQuery config s t) = marco s := atenderQuery_marco
    simp only [marco, Prod.mk.injEq] at same
    simp only [paso, atenderQuery_vigias, same]
    exact antes
  | cierraQuery t =>
    rcases previsto with no | ⟨_, _, same, _⟩
    · simp [permitido] at no
    · contradiction
  | desconexion t =>
    obtain ⟨abierta, sinVer | pendiente | fin⟩ := inv.sinBajas t
    · simpa [paso, atenderDesconexionQuery, sinVer] using antes
    · by_cases h : q = t
      · subst h
        simp [paso, atenderDesconexionQuery, pendiente, abierta]
      · simpa [paso, atenderDesconexionQuery, pendiente, abierta, h] using antes
    · simpa [paso, atenderDesconexionQuery, fin] using antes
  | conectaWorker | cierraWorker | reporta => exact antes

theorem puesta_antes (e : Evento) (q : Int) (puesta : Puesta ((paso config s e).llegadas q)) :
    Puesta (s.llegadas q) ∨ e = .consulta q ∧ s.llegadas q = .creada := by
  have quieto (same : registro (paso config s e) = registro s) : Puesta (s.llegadas q) := by
    rwa [← llegadas_of_registro same]
  cases e with
  | conectaInterrupcion c => exact .inl (quieto atenderWorkerInterrupt_registro)
  | despacho c => exact .inl (quieto despachar_registro)
  | vigilante c => exact .inl (quieto vigilar_registro)
  | timer t => exact .inl (quieto atenderTimerQuery_registro)
  | desconexion t =>
    have mismas : (paso config s (.desconexion t)).llegadas = s.llegadas :=
      atenderDesconexionQuery_llegadas config
    exact .inl (mismas ▸ puesta)
  | llega path prioridad basura =>
    by_cases h : q = s.idQuery
    · simp [paso, nuevaQuery, h, Puesta] at puesta
    · simp only [paso, nuevaQuery, Function.update_of_ne h] at puesta
      exact .inl puesta
  | consulta t =>
    rcases atenderQuery_llegadas config (s := s) (q := t) with mismas | ⟨ya, l, _, nuevas⟩
    · simp only [paso, mismas] at puesta
      exact .inl puesta
    · by_cases h : q = t
      · subst h
        by_cases nueva : s.llegadas q = .creada
        · exact .inr ⟨rfl, nueva⟩
        · exact .inl ⟨ya, nueva⟩
      · simp only [paso, nuevas, Function.update_of_ne h] at puesta
        exact .inl puesta
  | conectaWorker | cierraWorker | reporta | cierraQuery => exact .inl puesta

theorem no_desconectada {m : Paquete} {t : Int} {con : Conexion} (h : Pendiente q con)
    (llego : m ∈ con.entrada) : manejo m ≠ some (.desconectada t) := by
  have informa : Lectura q m ∨ Cierre q m := by
    rcases h with ⟨_, _, _, lecturas⟩ | ⟨_, lecturas, fin, entrada, todas, cierre⟩
    · exact .inl (lecturas m llego)
    · rw [entrada, List.mem_append, List.mem_singleton] at llego
      rcases llego with vieja | rfl
      · exact .inl (todas m vieja)
      · exact .inr cierre
  rcases informa with ⟨p, contenido, pc, rfl⟩ | ⟨cierre, noDes⟩
  · simp [manejo_readResult]
  · rcases manejo_desenlace cierre with ⟨_, _, lee, _⟩ | ⟨_, lee, _⟩ | ⟨_, codigo⟩ | ⟨lee, _⟩
    · simp [lee]
    · simp [lee]
    · exact (noDes codigo).elim
    · simp [lee]

theorem responde_of_sale (inv : Libro s) (causa : Causa s e q none) :
    ∃ r, r ∈ ((paso config s e).queries q).respuestas ∧ esTerminal r = true := by
  cases causa with
  | responde c _ r en =>
    have despacho := (inv.enLinea.conexiones c).despacho
    simp only [Despacho, en] at despacho
    refine ⟨r, ?_, despacho.1⟩
    rw [paso_completando config en]
    simp [Master.pasaA, Master.enConexion, Master.enQuery, Query.responder]
  | desconectada c _ t m en llego lee =>
    have despacho := (inv.enLinea.conexiones c).despacho
    simp only [Despacho, en] at despacho
    exact (no_desconectada despacho llego lee).elim
  | retirada _ evaluada =>
    have vigia := (inv.sinBajas q).2
    simp [evaluada] at vigia

theorem presentes_paso (inv : Libro s) (q : Int)
    (puesta : Puesta ((paso config s e).llegadas q)) :
    (∃ l, (lugares (paso config s e)).At q l) ∨
      ∃ r, r ∈ ((paso config s e).queries q).respuestas ∧ esTerminal r = true := by
  have ordenado := inv.enLinea.ordenado
  rcases puesta_antes e q puesta with vieja | ⟨rfl, nueva⟩
  · by_cases lugar : ∃ l, (lugares s).At q l
    · obtain ⟨l, aqui⟩ := lugar
      rcases paso_movimiento config ordenado e with igual | ⟨t, target, mv, causa⟩
      · exact .inl ⟨l, igual ▸ aqui⟩
      · by_cases same : q = t
        · subst same
          cases target with
          | none => exact .inr (responde_of_sale inv causa)
          | some l' => exact .inl ⟨l', (mv.at_iff q l').mpr (.inr ⟨rfl, rfl⟩)⟩
        · exact .inl ⟨l, (mv.at_iff q l).mpr (.inl ⟨same, aqui⟩)⟩
    · obtain ⟨r, enviada, terminal⟩ := (inv.presentes q vieja).resolve_left lugar
      have crece : Crece (s.queries q) ((paso config s e).queries q) := by
        apply crece_paso (ordenado.llegadas q vieja.1)
        rintro c idWorker rfl corre
        exact lugar ⟨.held c, sostenida_eq corre⟩
      exact .inr ⟨r, crece.2.subset enviada, terminal⟩
  · refine .inl ⟨.queue, ?_⟩
    simp [paso, atenderQuery, nueva, lugares, Custody.Places.At]

theorem libro_paso (inv : Libro s) (previsto : Previsto s e) (guarda : seguro s e = true) :
    Libro (paso config s e) :=
  ⟨enLinea_paso inv.enLinea previsto guarda, presentes_paso inv,
    sinBajas_paso config inv previsto⟩

theorem libro_inicial : Libro masterInicial := by
  refine ⟨⟨ordenado_inicial, fun c => enOrden_nueva ⟨rfl, rfl⟩, ?_⟩, ?_, ?_⟩
  · constructor
    · constructor
      · intro c _ en
        simp [cuaderno, masterInicial] at en
      · simp [cuaderno, masterInicial, vista, registrada, Conexion.nueva]
      · simp [cuaderno, masterInicial]
      · intro c _
        rfl
    · constructor
      · simp [cuaderno, masterInicial, vista, activa, Conexion.nueva]
      · intro c c' q h
        simp [cuaderno, masterInicial, vista, activa, Conexion.nueva] at h
      · intro c q h
        simp [cuaderno, masterInicial, vista, ligada, activa, Conexion.nueva] at h
      · intro c _
        exact ⟨rfl, rfl⟩
    · rfl
  · intro q puesta
    exact (puesta.1 rfl).elim
  · intro q
    exact ⟨rfl, .inl rfl⟩

theorem activa_sigue (h : activa (s.conexiones c).despachador = some q) :
    registrada (s.conexiones c).despachador = true ∧ (s.conexiones c).despachador ≠ .fin := by
  cases d : (s.conexiones c).despachador with
  | agregada | atendiendo | abandonada | roto => exact ⟨rfl, nofun⟩
  | _ => simp [d, activa] at h

theorem idWorker_of_activa (inv : EnLinea s) (h : activa (s.conexiones c).despachador = some q) :
    (s.queries q).idWorker = (s.conexiones c).id := by
  have suya : ligada (s.conexiones c).despachador = some q := by
    cases d : (s.conexiones c).despachador with
    | completando => simp [d, activa] at h
    | _ => exact (congrArg activa d).symm.trans h
  exact inv.asientos.reparto.ligadas c q suya

theorem quieto_conectada (inv : EnLinea s) (quieto : Quieto s) (en : c < s.cantidadConexiones) :
    ((s.conexiones c).cerrada = false ↔ (s.conexiones c).vigilante ≠ .terminado) ∧
    ((s.conexiones c).cerrada = false ↔ descontado (s.conexiones c).vigilante = false) := by
  have orden := inv.conexiones c
  rcases quieto c en with sin | ⟨o, vigila, abierta⟩ | terminado
  · have abierta : (s.conexiones c).cerrada = false := by
      by_contra cerrada
      exact orden.abierta (by simpa using cerrada) sin
    simp [sin, abierta, descontado]
  · simp [vigila, abierta, descontado]
  · have cerrada := orden.cierre (by rw [terminado]; rfl)
    simp [terminado, cerrada, descontado]

theorem conWorker_of_quieto (inv : EnLinea s) (quieto : Quieto s) (corre : q ∈ s.queryEnWorker) :
    ∃ c, c ∈ s.listaWorkers ∧ (s.conexiones c).id = (s.queries q).idWorker ∧
      (s.conexiones c).cerrada = false ∧ (s.conexiones c).desconection = false := by
  obtain ⟨c, suya⟩ := (inv.asientos.reparto.corren q).mp corre
  obtain ⟨reg, sigue⟩ := activa_sigue suya
  have orden := inv.conexiones c
  have viva := viva_of_despachador orden sigue
  have en := en_lista inv (ninguno_of_registrada reg)
  have abierta := (quieto_conectada inv quieto en).1.mpr viva
  refine ⟨c, ?_, (idWorker_of_activa inv suya).symm, abierta, ?_⟩
  · exact (inv.asientos.registro.miembros c).mpr ⟨reg, by simpa [cuaderno, vista] using viva⟩
  · by_contra marcada
    have cerrada := orden.cierre (orden.marcada (.inl (by simpa using marcada)))
    simp [abierta] at cerrada

theorem unaCadaUno_of_libro (inv : EnLinea s) :
    (s.queryEnWorker.map fun q => (s.queries q).idWorker).Nodup := by
  apply List.Nodup.map_on _ inv.ordenado.unico.running
  intro q corre t correT mismoId
  obtain ⟨c, suya⟩ := (inv.asientos.reparto.corren q).mp corre
  obtain ⟨o, suyaT⟩ := (inv.asientos.reparto.corren t).mp correT
  obtain ⟨reg, sigue⟩ := activa_sigue suya
  obtain ⟨regT, sigueT⟩ := activa_sigue suyaT
  rw [idWorker_of_activa inv suya, idWorker_of_activa inv suyaT] at mismoId
  have viva := viva_of_despachador (inv.conexiones c) sigue
  have vivaT := viva_of_despachador (inv.conexiones o) sigueT
  have same : c = o := inv.asientos.registro.ids c o (en_lista inv (ninguno_of_registrada reg))
    (en_lista inv (ninguno_of_registrada regT)) (by simpa [cuaderno, vista] using viva)
    (by simpa [cuaderno, vista] using vivaT) mismoId
  subst same
  exact Option.some.inj (suya.symm.trans suyaT)

theorem cantidad_of_quieto (inv : EnLinea s) (quieto : Quieto s) :
    s.cantidadWorkers = ((Finset.range s.cantidadConexiones).filter fun c =>
      contado (s.conexiones c).despachador ∧ (s.conexiones c).cerrada = false).card := by
  have total := inv.asientos.cantidad
  rw [Finset.card_filter]
  push_cast
  refine total.trans (Finset.sum_congr rfl fun c en => ?_)
  have abierta := (quieto_conectada inv quieto (Finset.mem_range.mp en)).2
  simp only [cuaderno, vista, Vista.cuenta, abierta, Bool.and_eq_true, Bool.not_eq_true']

theorem libroEnOrden_of_quieto (inv : Libro s) (quieto : Quieto s) : LibroEnOrden s := by
  constructor
  · intro q puesta sinFin
    obtain ⟨l, aqui⟩ := (inv.presentes q puesta).resolve_right (by
      rintro ⟨r, enviada, terminal⟩
      simp [sinFin r enviada] at terminal)
    exact ⟨l, aqui, fun l' otro => inv.enLinea.ordenado.unico.one q l' l otro aqui⟩
  · exact ⟨inv.enLinea.ordenado.unico.queue, inv.enLinea.ordenado.unico.running⟩
  · exact fun q corre => conWorker_of_quieto inv.enLinea quieto corre
  · exact unaCadaUno_of_libro inv.enLinea
  · exact cantidad_of_quieto inv.enLinea quieto

/-- In every run that loses a Worker only while its thread is not waiting for a report, the
    books are in order whenever no watcher is at work. -/
theorem libro_en_orden (config : Config) {es : List Evento}
    (h : Along (paso config) (fun s e => Previsto s e ∧ seguro s e = true) masterInicial es)
    {pre : List Evento} (corta : pre <+: es) (quieto : Quieto (correr config masterInicial pre)) :
    LibroEnOrden (correr config masterInicial pre) := by
  refine libroEnOrden_of_quieto ?_ quieto
  exact invariant_on_prefixes Libro (fun s e inv guarda => libro_paso inv guarda.1 guarda.2)
    libro_inicial h pre corta

theorem along_permitido {es : List Evento}
    (h : Along (paso config) (fun s e => permitido s e = true ∧ seguro s e = true) s es) :
    Along (paso config) (fun s e => Previsto s e ∧ seguro s e = true) s es :=
  along_mono (fun _ _ h => ⟨.inl h.1, h.2⟩) h

/-- The Worker is lost when its query has ended, and its thread takes the next one. -/
def trasLaQuery : List Evento :=
  [.despacho 0, .despacho 0, .cierraWorker 0, .vigilante 0, .vigilante 0, .vigilante 0,
    .llega "r" 0 0, .consulta 1, .consulta 1, .consulta 1, .despacho 0, .despacho 0, .despacho 0,
    .vigilante 0, .vigilante 0]

def workerLibre : List Evento := queryTerminada ++ trasLaQuery

theorem libro_en_orden_worker_libre :
    LibroEnOrden (correr ⟨.fifo, 0⟩ masterInicial workerLibre) := by
  have informa : Informa (correr ⟨.fifo, 0⟩ masterInicial queryEnMarcha) 0 (avisoEndQuery 0) :=
    ⟨_, [], 0, rfl, rfl, .inr ⟨.fin, nofun⟩⟩
  have hasta : Along (paso ⟨.fifo, 0⟩) (fun s e => Previsto s e ∧ seguro s e = true) masterInicial
      queryTerminada :=
    along_append.mpr ⟨along_permitido (by decide), ⟨.inr ⟨0, _, rfl, informa⟩, rfl⟩, trivial⟩
  have toda : Along (paso ⟨.fifo, 0⟩) (fun s e => Previsto s e ∧ seguro s e = true) masterInicial
      workerLibre :=
    along_append.mpr ⟨hasta, along_permitido (by decide)⟩
  refine libro_en_orden ⟨.fifo, 0⟩ toda List.prefix_rfl fun c en => .inr (.inr ?_)
  have sola : (correr ⟨.fifo, 0⟩ masterInicial workerLibre).cantidadConexiones = 1 := by decide
  obtain rfl : c = 0 := by omega
  decide

/-- The Worker is lost while it runs the query, and everyone finds out. -/
def workerPerdido : List Evento :=
  queryEnMarcha ++ .cierraWorker 0 :: List.replicate 4 (.vigilante 0) ++
    [.despacho 0, .vigilante 0, .vigilante 0]

theorem worker_perdido_conserva_query :
    Along (paso ⟨.fifo, 0⟩) Previsto masterInicial workerPerdido ∧
    Quieto (correr ⟨.fifo, 0⟩ masterInicial workerPerdido) ∧
    ¬ LibroEnOrden (correr ⟨.fifo, 0⟩ masterInicial workerPerdido) := by
  have todos : Along (paso ⟨.fifo, 0⟩) (fun s e => permitido s e = true) masterInicial
      workerPerdido := by decide
  refine ⟨along_mono (fun _ _ h => .inl h) todos, fun c en => .inr (.inr ?_), ?_⟩
  · have sola : (correr ⟨.fifo, 0⟩ masterInicial workerPerdido).cantidadConexiones = 1 := by decide
    obtain rfl : c = 0 := by omega
    decide
  · intro orden
    obtain ⟨c, en, _⟩ := orden.conWorker 0 (by decide)
    have vacia : (correr ⟨.fifo, 0⟩ masterInicial workerPerdido).listaWorkers = [] := by decide
    simp [vacia] at en

end MasterLibro
