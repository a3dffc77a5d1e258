import MasterOfFiles.Master.Cuaderno
import MasterOfFiles.Master.Lugares
import MasterOfFiles.Worker.Informes

/-!
The two threads of each connection step by step: how far one lets the other go, what is on
the way between the Worker and its thread, and which entry in the lists each step makes.
-/
namespace MasterConexiones
open Mensajes MasterEstado MasterManejo MasterHilos MasterMarcos MasterLugares MasterCuaderno
open WorkerInformes

/-- The thread of the connection has put its Worker in lista_workers. -/
def registrada : Despachador → Bool
  | .ninguno | .conectada | .contada => false
  | _ => true

def contado : Despachador → Bool
  | .ninguno | .conectada => false
  | _ => true

def activa : Despachador → Option Int
  | .agregada _ q | .atendiendo q | .abandonada q | .roto q => some q
  | _ => none

def ligada : Despachador → Option Int
  | .completando q _ => some q
  | d => activa d

def descontado : Vigilante → Bool
  | .ninguno | .vigilando _ | .marcado _ => false
  | _ => true

def avisado : Vigilante → Bool
  | .ninguno | .vigilando _ => false
  | _ => true

/-- The connection that the watcher works for. -/
def objeto : Vigilante → Option Nat
  | .vigilando o | .marcado o | .descontado o | .avisando o _ | .esperando o | .liberado o => some o
  | .ninguno | .terminado => none

def vista (con : Conexion) : Vista where
  id := con.id
  registrada := registrada con.despachador
  viva := con.vigilante ≠ .terminado
  contada := contado con.despachador && !descontado con.vigilante
  activa := activa con.despachador
  ligada := ligada con.despachador

def cuaderno (s : Master) : Cuaderno where
  conexiones := s.cantidadConexiones
  lista := s.listaWorkers
  enWorker := s.queryEnWorker
  cantidad := s.cantidadWorkers
  idWorker := fun q => (s.queries q).idWorker
  vistas := fun c => vista (s.conexiones c)

def Lectura (q : Int) (m : Paquete) : Prop := ∃ p contenido pc, m = readResult p q contenido pc

def Cierre (q : Int) (m : Paquete) : Prop :=
  Desenlace q m ∧ m.codigo ≠ .workerQueryDesconectado

/-- The Worker has the assignment and has only sent reads, or it has sent its end too. -/
def Pendiente (q : Int) (con : Conexion) : Prop :=
  (∃ a, con.asignaciones = [a] ∧ a.entero 1 = some q ∧ ∀ m ∈ con.entrada, Lectura q m) ∨
  con.asignaciones = [] ∧
    ∃ lecturas m, con.entrada = lecturas ++ [m] ∧ (∀ l ∈ lecturas, Lectura q l) ∧ Cierre q m

def SinCorreo (con : Conexion) : Prop := con.asignaciones = [] ∧ con.entrada = []

/-- What the thread of the connection knows where it is. -/
def Despacho (c : Nat) (con : Conexion) : Prop :=
  match con.despachador with
  | .esperaToken idWorker | .conToken idWorker | .validado idWorker | .sosteniendo idWorker _
  | .corriendo idWorker _ | .agregada idWorker _ => idWorker = con.id ∧ SinCorreo con
  | .invalido worker => worker = some c ∧ SinCorreo con
  | .completando _ respuesta => esTerminal respuesta = true ∧ SinCorreo con
  | .atendiendo q => Pendiente q con
  | _ => SinCorreo con

structure EnOrden (c : Nat) (con : Conexion) : Prop where
  objeto : ∀ o, objeto con.vigilante = some o → o = c
  vigilada : con.vigilante ≠ .ninguno → registrada con.despachador = true
  fin : 0 < con.desconexionWorker ∨ (∃ o, con.vigilante = .liberado o) ∨
    con.vigilante = .terminado → con.despachador = .fin
  marcada : con.desconection ∨ con.socketCerrado → avisado con.vigilante = true
  cierre : avisado con.vigilante = true → con.cerrada = true
  abierta : con.cerrada = true → con.vigilante ≠ .ninguno
  despacho : Despacho c con

structure EnLinea (s : Master) : Prop where
  ordenado : Ordenado s
  conexiones : ∀ c, EnOrden c (s.conexiones c)
  asientos : Asientos (cuaderno s)

/-- What a step has to keep: the connections in order and at most one entry made. -/
def Lleva (s s' : Master) : Prop :=
  (∀ c, EnOrden c (s'.conexiones c)) ∧ Apunte (cuaderno s) (cuaderno s')

variable {config : Config} {s s' : Master} {c : Nat} {q : Int} {con : Conexion}

theorem en_lista (inv : EnLinea s) (h : (s.conexiones c).despachador ≠ .ninguno) :
    c < s.cantidadConexiones := by
  by_contra fuera
  exact h (inv.ordenado.nuevas c (by omega))

theorem ninguno_of_registrada {d : Despachador} (h : registrada d = true) : d ≠ .ninguno := by
  rintro rfl
  contradiction

theorem mismo_de_id (inv : EnLinea s) {o : Nat} (en : o ∈ s.listaWorkers)
    (reg : registrada (s.conexiones c).despachador = true)
    (viva : (s.conexiones c).vigilante ≠ .terminado)
    (mismoId : (s.conexiones o).id = (s.conexiones c).id) : o = c := by
  obtain ⟨regO, vivaO⟩ := (inv.asientos.registro.miembros o).mp en
  exact inv.asientos.registro.ids o c (en_lista inv (ninguno_of_registrada regO))
    (en_lista inv (ninguno_of_registrada reg)) vivaO (by simpa [cuaderno, vista] using viva)
    mismoId

theorem obtener_propio (inv : EnLinea s) (en : registrada (s.conexiones c).despachador = true)
    (viva : (s.conexiones c).vigilante ≠ .terminado) :
    obtenerPorIdWorker s (s.conexiones c).id = some c := by
  have miembros := inv.asientos.registro.miembros
  have aqui : c ∈ s.listaWorkers := (miembros c).mpr ⟨en, by simpa [cuaderno, vista] using viva⟩
  have esta : ((s.listaWorkers.find? fun o => (s.conexiones o).id = (s.conexiones c).id)).isSome := by
    rw [List.find?_isSome]
    exact ⟨c, aqui, by simp⟩
  obtain ⟨o, ho⟩ := Option.isSome_iff_exists.mp esta
  have mismoId : (s.conexiones o).id = (s.conexiones c).id := by simpa using List.find?_some ho
  rw [obtenerPorIdWorker, ho, mismo_de_id inv (List.mem_of_find?_eq_some ho) en viva mismoId]

theorem eliminar_propio (inv : EnLinea s) (en : registrada (s.conexiones c).despachador = true)
    (viva : (s.conexiones c).vigilante ≠ .terminado) :
    eliminarWorkerPorId s (s.conexiones c).id = s.listaWorkers.erase c := by
  have aqui : c ∈ s.listaWorkers := (inv.asientos.registro.miembros c).mpr
    ⟨en, by simpa [cuaderno, vista] using viva⟩
  obtain ⟨o, antes, despues, fuera, mismoId, partes, queda⟩ := List.exists_of_eraseP
    (p := fun o => (s.conexiones o).id = (s.conexiones c).id) aqui (by simp)
  have same : o = c := mismo_de_id inv (by simp [partes]) en viva (by simpa using mismoId)
  have noAntes : c ∉ antes := fun h => fuera c h (by simp)
  rw [eliminarWorkerPorId, queda, partes, same, List.erase_append_right _ noAntes,
    List.erase_cons_head]

theorem cuaderno_enConexion (s : Master) (c : Nat) (f : Conexion → Conexion) :
    cuaderno (s.enConexion c f) =
      { cuaderno s with
        vistas := Function.update (cuaderno s).vistas c (vista (f (s.conexiones c))) } := by
  simp only [cuaderno, Master.enConexion, Cuaderno.mk.injEq, true_and]
  exact Function.comp_update vista s.conexiones c _

theorem orden_enConexion {s : Master} (orden : ∀ o, EnOrden o (s.conexiones o))
    {f : Conexion → Conexion} (nueva : EnOrden c (f (s.conexiones c))) (o : Nat) :
    EnOrden o ((s.enConexion c f).conexiones o) := by
  by_cases h : o = c
  · subst h
    simpa [Master.enConexion] using nueva
  · rw [conexiones_ajena h]
    exact orden o

theorem enOrden_pasa {d : Despachador} {entrada asignaciones : List Paquete}
    (h : EnOrden c con) (sigue : con.despachador ≠ .fin)
    (reg : registrada con.despachador = true → registrada d = true)
    (datos : Despacho c { con with
      despachador := d, entrada := entrada, asignaciones := asignaciones }) :
    EnOrden c { con with
      despachador := d, entrada := entrada, asignaciones := asignaciones } :=
  { h with
    vigilada := fun v => reg (h.vigilada v)
    fin := fun f => (sigue (h.fin f)).elim
    despacho := datos }

theorem cambia_lleva (inv : EnLinea s) {s₁ : Master} {f : Conexion → Conexion}
    (nueva : EnOrden c (f (s.conexiones c)))
    (apunte : Apunte (cuaderno s) { cuaderno s₁ with
      vistas := Function.update (cuaderno s).vistas c (vista (f (s.conexiones c))) })
    (mismas : s₁.conexiones = s.conexiones) : Lleva s (s₁.enConexion c f) := by
  have vistas : (cuaderno s₁).vistas = (cuaderno s).vistas := by simp only [cuaderno, mismas]
  constructor
  · apply orden_enConexion (mismas ▸ inv.conexiones)
    rw [mismas]
    exact nueva
  · rw [cuaderno_enConexion, vistas, mismas]
    exact apunte

theorem cambia_callada (inv : EnLinea s) {s₁ : Master} {f : Conexion → Conexion}
    (nueva : EnOrden c (f (s.conexiones c)))
    (igual : vista (f (s.conexiones c)) = vista (s.conexiones c))
    (mismas : s₁.conexiones = s.conexiones)
    (mismo : cuaderno s₁ = cuaderno s) : Lleva s (s₁.enConexion c f) := by
  refine cambia_lleva inv nueva ?_ mismas
  rw [igual, mismo]
  exact (Function.update_eq_self c (cuaderno s).vistas).symm ▸ .nada

theorem pasa_lleva (inv : EnLinea s) {s₁ : Master} {d : Despachador}
    (sigue : (s.conexiones c).despachador ≠ .fin)
    (reg : registrada (s.conexiones c).despachador = true → registrada d = true)
    (datos : Despacho c { s.conexiones c with despachador := d })
    (apunte : Apunte (cuaderno s) { cuaderno s₁ with
      vistas := Function.update (cuaderno s).vistas c
        (vista { s.conexiones c with despachador := d }) })
    (mismas : s₁.conexiones = s.conexiones) : Lleva s (s₁.pasaA c d) :=
  cambia_lleva inv (enOrden_pasa (inv.conexiones c) sigue reg datos) apunte mismas

theorem pasa_callada (inv : EnLinea s) {s₁ : Master} {d d' : Despachador}
    (h : (s.conexiones c).despachador = d) (sigue : d ≠ .fin)
    (igual : registrada d' = registrada d ∧ contado d' = contado d ∧ activa d' = activa d ∧
      ligada d' = ligada d)
    (datos : Despacho c { s.conexiones c with despachador := d' })
    (mismas : s₁.conexiones = s.conexiones)
    (mismo : cuaderno s₁ = cuaderno s) : Lleva s (s₁.pasaA c d') := by
  refine cambia_callada inv ?_ ?_ mismas mismo
  · exact enOrden_pasa (inv.conexiones c) (h ▸ sigue) (fun r => by rwa [igual.1, ← h]) datos
  · simp only [vista, h, igual]

theorem activa_en (inv : EnLinea s) (h : activa (s.conexiones c).despachador = some q) :
    q ∈ s.queryEnWorker :=
  (inv.asientos.reparto.corren q).mpr ⟨c, h⟩

theorem ligada_at (inv : EnLinea s) (h : ligada (s.conexiones c).despachador = some q) :
    (lugares s).At q .running ∨ (lugares s).At q (.held c) := by
  cases d : (s.conexiones c).despachador with
  | completando t respuesta =>
    have same : t = q := by simpa [ligada, d] using h
    exact .inr (same ▸ sostenida_eq d)
  | _ =>
    rw [d] at h
    exact .inl (activa_en inv (by rw [d]; exact h))

theorem toma_vista (orden : EnOrden c con) (sinVigilar : registrada con.despachador = false) :
    con.vigilante = .ninguno := by
  by_contra vigila
  simp [orden.vigilada vigila] at sinVigilar

theorem conectada_lleva (inv : EnLinea s) (h : (s.conexiones c).despachador = .conectada) :
    Lleva s ({ s with cantidadWorkers := s.cantidadWorkers + 1 }.pasaA c .contada) := by
  have despacho := (inv.conexiones c).despacho
  have sinVigilar := toma_vista (inv.conexiones c) (by rw [h]; rfl)
  simp only [Despacho, h] at despacho
  have cuenta : vista { s.conexiones c with despachador := .contada } =
      { vista (s.conexiones c) with contada := true } := by
    simp [vista, h, sinVigilar, contado, descontado, registrada, activa, ligada]
  refine pasa_lleva inv (by simp [h]) (by simp [h, registrada]) despacho ?_ rfl
  rw [cuenta]
  exact .cuenta c (en_lista inv (by simp [h])) (by simp [cuaderno, vista, h, contado])

theorem contada_lleva (inv : EnLinea s) (h : (s.conexiones c).despachador = .contada) :
    Lleva s ({ s with listaWorkers := s.listaWorkers ++ [c] }.pasaA c
      (.esperaToken (s.conexiones c).id)) := by
  have despacho := (inv.conexiones c).despacho
  have sinVigilar := toma_vista (inv.conexiones c) (by rw [h]; rfl)
  simp only [Despacho, h] at despacho
  have entra : vista { s.conexiones c with despachador := .esperaToken (s.conexiones c).id } =
      { vista (s.conexiones c) with registrada := true } := by
    simp [vista, h, contado, registrada, activa, ligada]
  refine pasa_lleva inv (by simp [h]) (by simp [h, registrada]) ⟨rfl, despacho⟩ ?_ rfl
  rw [entra]
  exact .registra c (en_lista inv (by simp [h])) (by simp [cuaderno, vista, h, registrada])
    (by simp [cuaderno, vista, sinVigilar])

theorem corriendo_lleva (inv : EnLinea s) {idWorker : Int}
    (h : (s.conexiones c).despachador = .corriendo idWorker q) :
    Lleva s (({ s with queryEnWorker := s.queryEnWorker ++ [q] }.enQuery q fun t =>
      { t with idWorker := idWorker }).pasaA c (.agregada idWorker q)) := by
  have despacho := (inv.conexiones c).despacho
  simp only [Despacho, h] at despacho
  obtain ⟨rfl, sin⟩ := despacho
  have agrega : vista { s.conexiones c with
      despachador := .agregada (s.conexiones c).id q } =
      { vista (s.conexiones c) with activa := some q, ligada := some q } := by
    simp [vista, h, contado, registrada, activa, ligada]
  have aqui : (lugares s).At q (.held c) := sostenida_eq h
  have fuera : ¬ (lugares s).At q .running := Custody.elsewhere inv.ordenado.unico aqui (by simp)
  refine pasa_lleva inv (by simp [h]) (by simp [h, registrada]) ⟨rfl, sin⟩ ?_ rfl
  have otras (o : Nat) : ligada (s.conexiones o).despachador ≠ some q := by
    intro suya
    rcases ligada_at inv suya with corre | tiene
    · exact fuera corre
    · cases inv.ordenado.unico.one q _ _ aqui tiene
      simp [h, ligada, activa] at suya
  have ids : (fun t => (Function.update s.queries q
      { s.queries q with idWorker := (s.conexiones c).id } t).idWorker) =
      Function.update (cuaderno s).idWorker q ((cuaderno s).vistas c).id :=
    Function.comp_update Query.idWorker s.queries q _
  rw [agrega]
  simp only [cuaderno, Master.enQuery, ids]
  exact .agrega c q (en_lista inv (by simp [h])) fuera (by simp [vista, h, activa]) otras

theorem pendiente_lee {m : Paquete} {resto : List Paquete} (h : Pendiente q con)
    (llega : con.entrada = m :: resto) :
    (Lectura q m ∧ Pendiente q { con with entrada := resto }) ∨
      Cierre q m ∧ SinCorreo { con with entrada := resto } := by
  rcases h with ⟨a, una, suya, lecturas⟩ | ⟨ninguna, lecturas, fin, entrada, todas, cierre⟩
  · rw [llega, List.forall_mem_cons] at lecturas
    exact .inl ⟨lecturas.1, .inl ⟨a, una, suya, lecturas.2⟩⟩
  · cases lecturas with
    | nil =>
      obtain ⟨rfl, rfl⟩ : m = fin ∧ resto = [] := by simpa [llega] using entrada
      exact .inr ⟨cierre, ninguna, rfl⟩
    | cons l lecturas =>
      obtain ⟨rfl, rfl⟩ : m = l ∧ resto = lecturas ++ [fin] := by simpa [llega] using entrada
      rw [List.forall_mem_cons] at todas
      exact .inl ⟨todas.1, .inr ⟨ninguna, lecturas, fin, rfl, todas.2, cierre⟩⟩

theorem cuaderno_enQuery {g : Query → Query} (s : Master) (q : Int)
    (mismo : ∀ t, (g t).idWorker = t.idWorker) :
    cuaderno (s.enQuery q g) = cuaderno s := by
  have ids : (fun t => (Function.update s.queries q (g (s.queries q)) t).idWorker) =
      fun t => (s.queries t).idWorker := by
    funext t
    by_cases h : t = q
    · subst h
      simp [mismo]
    · simp [h]
  simp only [cuaderno, Master.enQuery, ids]

theorem enConexion_pasaA (s : Master) (c : Nat) (f : Conexion → Conexion) (d : Despachador) :
    (s.enConexion c f).pasaA c d = s.enConexion c fun con => { f con with despachador := d } := by
  simp [Master.pasaA, Master.enConexion]

theorem quita_lleva (inv : EnLinea s) (h : (s.conexiones c).despachador = .atendiendo q)
    {resto : List Paquete} {d : Despachador} {l : Option Int} (queda : l = none ∨ l = some q)
    (nuevo : registrada d = true ∧ contado d = true ∧ activa d = none ∧ ligada d = l)
    (datos : Despacho c { s.conexiones c with despachador := d, entrada := resto }) :
    Lleva s (({ s with queryEnWorker := s.queryEnWorker.erase q }.enConexion c fun con =>
      { con with entrada := resto }).pasaA c d) := by
  have quita : vista { s.conexiones c with despachador := d, entrada := resto } =
      { vista (s.conexiones c) with activa := none, ligada := l } := by
    simp only [vista, nuevo, h]
    rfl
  have antes : (vista (s.conexiones c)).activa = some q := by simp [vista, h, activa]
  have suya : (vista (s.conexiones c)).ligada = some q := by simp [vista, h, ligada, activa]
  have nueva : EnOrden c { s.conexiones c with despachador := d, entrada := resto } :=
    enOrden_pasa (inv.conexiones c) (by simp [h]) (fun _ => nuevo.1) datos
  rw [enConexion_pasaA]
  refine cambia_lleva inv nueva ?_ rfl
  rw [quita]
  exact .quita c q antes l (queda.imp_right fun same => same.trans suya.symm)
    inv.ordenado.unico.running

theorem lee_lleva (inv : EnLinea s) (h : (s.conexiones c).despachador = .atendiendo q)
    {m : Paquete} {resto : List Paquete} (llega : (s.conexiones c).entrada = m :: resto) :
    Lleva s (manejar (s.enConexion c fun con => { con with entrada := resto }) c q (manejo m)) := by
  have despacho := (inv.conexiones c).despacho
  simp only [Despacho, h] at despacho
  have corre : q ∈ s.queryEnWorker := activa_en inv (by rw [h]; rfl)
  rcases pendiente_lee despacho llega with ⟨⟨p, contenido, pc, rfl⟩, sigue⟩ | ⟨⟨cierre, noDes⟩, sin⟩
  · have mismo := cuaderno_enQuery s q (g := fun t => { t with programCounter := pc }.responder
      ⟨.queryResponseRead, [.texto p.nombreFile, .texto p.tag, .texto contenido]⟩) fun _ => rfl
    have nueva : EnOrden c { s.conexiones c with entrada := resto } := by
      refine enOrden_pasa (inv.conexiones c) (by simp [h]) id ?_
      simpa only [Despacho, h] using sigue
    have callada : Lleva s ((s.enQuery q _).enConexion c fun con => { con with entrada := resto }) :=
      cambia_callada inv nueva rfl rfl mismo
    rw [manejo_readResult]
    simp only [manejar]
    exact (if_pos corre).symm ▸ callada
  · rcases manejo_desenlace cierre with ⟨r, terminal, lee, _⟩ | ⟨pc, lee, _⟩ | ⟨_, codigo⟩ | ⟨lee, _⟩
    · rw [lee]
      simp only [manejar]
      exact (if_pos corre).symm ▸
        quita_lleva inv h (.inr rfl) ⟨rfl, rfl, rfl, rfl⟩ ⟨terminal, sin⟩
    · rw [lee]
      simp only [manejar]
      exact (if_pos corre).symm ▸ quita_lleva inv h (.inl rfl) ⟨rfl, rfl, rfl, rfl⟩ sin
    · exact (noDes codigo).elim
    · have nueva : EnOrden c { s.conexiones c with despachador := .abandonada q, entrada := resto } :=
        enOrden_pasa (inv.conexiones c) (by simp [h]) (fun _ => rfl) sin
      rw [lee]
      simp only [manejar]
      rw [enConexion_pasaA]
      refine cambia_callada inv nueva ?_ rfl rfl
      simp [vista, h, registrada, contado, activa, ligada]

theorem lleva_refl (inv : EnLinea s) : Lleva s s := ⟨inv.conexiones, .nada⟩

theorem viva_of_despachador (orden : EnOrden c con) (sigue : con.despachador ≠ .fin) :
    con.vigilante ≠ .terminado := fun ya => sigue (orden.fin (.inr (.inr ya)))

theorem conToken_lleva (inv : EnLinea s) {idWorker : Int}
    (h : (s.conexiones c).despachador = .conToken idWorker) :
    Lleva s (despachar config s c) := by
  have despacho := (inv.conexiones c).despacho
  simp only [Despacho, h] at despacho
  have propio := obtener_propio inv (by rw [h]; rfl)
    (viva_of_despachador (inv.conexiones c) (by simp [h]))
  simp only [despachar, h, propio]
  split
  · exact pasa_callada inv h (by simp) ⟨rfl, rfl, rfl, rfl⟩ ⟨rfl, despacho.2⟩ rfl rfl
  · exact pasa_callada inv h (by simp) ⟨rfl, rfl, rfl, rfl⟩ despacho rfl rfl

theorem invalido_lleva (inv : EnLinea s) {worker : Option Nat}
    (h : (s.conexiones c).despachador = .invalido worker) : Lleva s (despachar config s c) := by
  have despacho := (inv.conexiones c).despacho
  simp only [Despacho, h] at despacho
  obtain ⟨rfl, sin⟩ := despacho
  have nueva : EnOrden c { s.conexiones c with
      desconexionWorker := (s.conexiones c).desconexionWorker + 1, despachador := .fin } :=
    { inv.conexiones c with
      vigilada := fun _ => rfl
      fin := fun _ => rfl
      despacho := sin }
  simp only [despachar, h]
  rw [enConexion_pasaA]
  refine cambia_callada inv nueva ?_ rfl rfl
  simp [vista, h, registrada, contado, activa, ligada]

theorem agregada_lleva (inv : EnLinea s) {idWorker : Int}
    (h : (s.conexiones c).despachador = .agregada idWorker q) :
    Lleva s (despachar config s c) := by
  have despacho := (inv.conexiones c).despacho
  simp only [Despacho, h] at despacho
  obtain ⟨_, ninguna, vacia⟩ := despacho
  have nueva : EnOrden c { s.conexiones c with
      asignaciones := (s.conexiones c).asignaciones ++ [workerAssignQuery q (s.queries q)]
      despachador := .atendiendo q } := by
    refine enOrden_pasa (inv.conexiones c) (by simp [h]) (fun _ => rfl)
      (.inl ⟨workerAssignQuery q (s.queries q), ?_, rfl, ?_⟩)
    · rw [ninguna]
      rfl
    · simp [vacia]
  simp only [despachar, h]
  refine cambia_callada inv nueva ?_ rfl rfl
  simp [vista, h, registrada, contado, activa, ligada]

theorem completando_lleva (inv : EnLinea s) {respuesta : Paquete}
    (h : (s.conexiones c).despachador = .completando q respuesta) :
    Lleva s (despachar config s c) := by
  have despacho := (inv.conexiones c).despacho
  simp only [Despacho, h] at despacho
  have suyo : (s.queries q).idWorker = (s.conexiones c).id :=
    inv.asientos.reparto.ligadas c q (by simp [cuaderno, vista, h, ligada])
  have suelta : vista { s.conexiones c with despachador := .esperaToken (s.conexiones c).id } =
      { vista (s.conexiones c) with ligada := none } := by
    simp [vista, h, registrada, contado, activa, ligada]
  have mismo := cuaderno_enQuery s q (g := fun t => (t.conEstado .exit).responder respuesta)
    fun _ => rfl
  simp only [despachar, h, suyo]
  refine pasa_lleva inv (by simp [h]) (fun _ => rfl) ⟨rfl, despacho.2⟩ ?_ rfl
  rw [suelta, mismo]
  exact .suelta c

def Atento (s : Master) (c : Nat) : Prop :=
  ∀ q, (s.conexiones c).despachador = .atendiendo q →
    Conexion.terminada (s.conexiones c) = false

theorem despachar_lleva (inv : EnLinea s) (atento : Atento s c) :
    Lleva s (despachar config s c) := by
  have despacho := (inv.conexiones c).despacho
  cases h : (s.conexiones c).despachador with
  | conectada => simpa only [despachar, h] using conectada_lleva inv h
  | contada => simpa only [despachar, h] using contada_lleva inv h
  | esperaToken idWorker =>
    simp only [Despacho, h] at despacho
    simp only [despachar, h]
    split
    · exact lleva_refl inv
    · exact pasa_callada inv h (by simp) ⟨rfl, rfl, rfl, rfl⟩ despacho rfl rfl
  | conToken idWorker => exact conToken_lleva inv h
  | invalido worker => exact invalido_lleva inv h
  | validado idWorker =>
    simp only [Despacho, h] at despacho
    simp only [despachar, h]
    split
    · exact pasa_callada inv h (by simp) ⟨rfl, rfl, rfl, rfl⟩ despacho rfl rfl
    · exact pasa_callada inv h (by simp) ⟨rfl, rfl, rfl, rfl⟩ despacho rfl rfl
  | sosteniendo idWorker q =>
    simp only [Despacho, h] at despacho
    simp only [despachar, h]
    exact pasa_callada inv h (by simp) ⟨rfl, rfl, rfl, rfl⟩ despacho rfl
      (cuaderno_enQuery s q fun _ => rfl)
  | corriendo idWorker q => simpa only [despachar, h] using corriendo_lleva inv h
  | agregada idWorker q => exact agregada_lleva inv h
  | atendiendo q =>
    have abierto := atento q h
    simp only [despachar, h, atenderWorker, abierto, Bool.false_eq_true, if_false]
    cases llega : (s.conexiones c).entrada with
    | nil => exact lleva_refl inv
    | cons m resto => exact lee_lleva inv h llega
  | completando q respuesta => exact completando_lleva inv h
  | reencolando q nuevoPC =>
    simp only [Despacho, h] at despacho
    simp only [despachar, h]
    exact pasa_callada inv h (by simp) ⟨rfl, rfl, rfl, rfl⟩ despacho rfl
      (cuaderno_enQuery s q fun _ => rfl)
  | encolando q =>
    simp only [Despacho, h] at despacho
    simp only [despachar, h]
    exact pasa_callada inv h (by simp) ⟨rfl, rfl, rfl, rfl⟩ despacho rfl rfl
  | avisando q =>
    simp only [Despacho, h] at despacho
    simp only [despachar, h]
    refine pasa_callada inv h (by simp) ⟨rfl, rfl, rfl, rfl⟩ ⟨rfl, despacho⟩ rfl ?_
    refine cuaderno_enQuery { s with semQueries := s.semQueries + 1 } q fun t => ?_
    split <;> rfl
  | ninguno | abandonada q | roto q | fin => simpa only [despachar, h] using lleva_refl inv

theorem enConexion_vigilantePasaA (s : Master) (c : Nat) (f : Conexion → Conexion)
    (v : Vigilante) : (s.enConexion c f).vigilantePasaA c v =
      s.enConexion c fun con => { f con with vigilante := v } := by
  simp [Master.vigilantePasaA, Master.enConexion]

theorem enOrden_vigila {v : Vigilante} {k : Nat} (h : EnOrden c con)
    (ya : avisado con.vigilante = true) (sigue : avisado v = true)
    (suyo : ∀ o, objeto v = some o → o = c)
    (fin : 0 < k ∨ (∃ o, v = .liberado o) ∨ v = .terminado → con.despachador = .fin) :
    EnOrden c { con with vigilante := v, desconexionWorker := k } :=
  { h with
    objeto := suyo
    vigilada := fun _ => h.vigilada (by rintro sin; simp [sin, avisado] at ya)
    fin := fin
    marcada := fun _ => sigue
    cierre := fun _ => h.cierre ya
    abierta := fun _ sin => by
      rw [show v = .ninguno from sin] at sigue
      contradiction }

theorem vigila_callada (inv : EnLinea s) {s₁ : Master} {v v' : Vigilante}
    (h : (s.conexiones c).vigilante = v) (ya : avisado v = true) (sigue : avisado v' = true)
    (suyo : ∀ o, objeto v' = some o → o = c)
    (igual : descontado v' = descontado v ∧ v ≠ .terminado ∧ v' ≠ .terminado ∧
      ∀ o, v' ≠ .liberado o)
    (mismas : s₁.conexiones = s.conexiones)
    (mismo : cuaderno s₁ = cuaderno s) : Lleva s (s₁.vigilantePasaA c v') := by
  obtain ⟨descuenta, noEra, noEs, noLibera⟩ := igual
  refine cambia_callada inv ?_ ?_ mismas mismo
  · apply enOrden_vigila (inv.conexiones c) (by rwa [h]) sigue suyo
    rintro (espera | ⟨o, libera⟩ | termina)
    · exact (inv.conexiones c).fin (.inl espera)
    · exact (noLibera o libera).elim
    · exact (noEs termina).elim
  · simp [vista, h, descuenta, noEra, noEs]

theorem vigilando_lleva (inv : EnLinea s) {o : Nat}
    (h : (s.conexiones c).vigilante = .vigilando o) : Lleva s (vigilar s c) := by
  have orden := inv.conexiones c
  obtain rfl : o = c := orden.objeto o (by rw [h]; rfl)
  simp only [vigilar, h]
  split
  · next cerrada =>
    rw [enConexion_vigilantePasaA]
    refine cambia_callada inv ?_ ?_ rfl rfl
    · exact { orden with
        objeto := fun _ same => (Option.some.inj same).symm
        vigilada := fun _ => orden.vigilada (by simp [h])
        fin := fun f => orden.fin (f.imp_right (by simp))
        marcada := fun _ => rfl
        cierre := fun _ => cerrada
        abierta := fun _ => by simp }
    · simp [vista, h, descontado]
  · exact lleva_refl inv

theorem contado_of_registrada {d : Despachador} (h : registrada d = true) : contado d = true := by
  cases d <;> first | rfl | contradiction

theorem marcado_lleva (inv : EnLinea s) {o : Nat}
    (h : (s.conexiones c).vigilante = .marcado o) :
    Lleva s ({ s with cantidadWorkers := s.cantidadWorkers - 1 }.vigilantePasaA c
      (.descontado o)) := by
  have orden := inv.conexiones c
  have suyo := orden.objeto o (by rw [h]; rfl)
  have reg := orden.vigilada (by simp [h])
  have descuenta : vista { s.conexiones c with vigilante := .descontado o } =
      { vista (s.conexiones c) with contada := false } := by
    simp [vista, h, descontado]
  refine cambia_lleva inv ?_ ?_ rfl
  · apply enOrden_vigila orden (by rw [h]; rfl) rfl (by simp [objeto, suyo])
    rintro (espera | ⟨_, libera⟩ | termina)
    · exact orden.fin (.inl espera)
    · contradiction
    · contradiction
  · rw [descuenta]
    exact .descuenta c (en_lista inv (ninguno_of_registrada reg))
      (by simp [cuaderno, vista, h, contado_of_registrada reg, descontado])

theorem esperando_lleva (inv : EnLinea s) {o : Nat}
    (h : (s.conexiones c).vigilante = .esperando o) : Lleva s (vigilar s c) := by
  have orden := inv.conexiones c
  obtain rfl : o = c := orden.objeto o (by rw [h]; rfl)
  simp only [vigilar, h]
  split
  · exact lleva_refl inv
  · next hay =>
    have nueva : EnOrden o { s.conexiones o with
        vigilante := .liberado o
        desconexionWorker := (s.conexiones o).desconexionWorker - 1 } :=
      enOrden_vigila orden (by rw [h]; rfl) rfl (fun _ same => (Option.some.inj same).symm)
        fun _ => orden.fin (.inl (Nat.pos_of_ne_zero hay))
    rw [enConexion_vigilantePasaA]
    refine cambia_callada inv nueva ?_ rfl rfl
    simp [vista, h, descontado]

theorem liberado_lleva (inv : EnLinea s) {o : Nat}
    (h : (s.conexiones c).vigilante = .liberado o) : Lleva s (vigilar s c) := by
  have orden := inv.conexiones c
  obtain rfl : o = c := orden.objeto o (by rw [h]; rfl)
  have fin := orden.fin (.inr (.inl ⟨o, h⟩))
  have libera : vista { s.conexiones o with vigilante := .terminado } =
      { vista (s.conexiones o) with viva := false } := by
    simp [vista, h, descontado]
  simp only [vigilar, h]
  rw [eliminar_propio inv (orden.vigilada (by simp [h])) (by simp [h])]
  refine cambia_lleva inv ?_ ?_ rfl
  · exact enOrden_vigila orden (by rw [h]; rfl) rfl (by simp [objeto]) fun _ => fin
  · rw [libera]
    exact .libera o

theorem vigilar_lleva (inv : EnLinea s) : Lleva s (vigilar s c) := by
  have suyo {v v' : Vigilante} (h : (s.conexiones c).vigilante = v) (same : objeto v' = objeto v) :
      ∀ o, objeto v' = some o → o = c :=
    fun o ho => (inv.conexiones c).objeto o (by rw [h, ← same, ho])
  cases h : (s.conexiones c).vigilante with
  | vigilando o => exact vigilando_lleva inv h
  | marcado o => simpa only [vigilar, h] using marcado_lleva inv h
  | descontado o =>
    simp only [vigilar, h]
    split
    · exact vigila_callada inv h rfl rfl (suyo h rfl) ⟨rfl, by simp, by simp, by simp⟩ rfl rfl
    · exact vigila_callada inv h rfl rfl (suyo h rfl) ⟨rfl, by simp, by simp, by simp⟩ rfl
        (cuaderno_enQuery s _ fun _ => rfl)
  | avisando o q =>
    simp only [vigilar, h]
    exact vigila_callada inv h rfl rfl (suyo h rfl) ⟨rfl, by simp, by simp, by simp⟩ rfl
      (cuaderno_enQuery s _ fun _ => rfl)
  | esperando o => exact esperando_lleva inv h
  | liberado o => exact liberado_lleva inv h
  | ninguno | terminado => simpa only [vigilar, h] using lleva_refl inv

theorem enOrden_nueva {id : Int} {d : Despachador} (datos : Despacho c (.nueva id d)) :
    EnOrden c (.nueva id d) := by
  constructor
  · simp [Conexion.nueva, objeto]
  · exact fun sin => (sin rfl).elim
  · rintro (espera | ⟨o, libera⟩ | termina)
    · exact (Nat.lt_irrefl 0 espera).elim
    · contradiction
    · contradiction
  · rintro (des | cerrado)
    · contradiction
    · contradiction
  · simp [Conexion.nueva, avisado]
  · simp [Conexion.nueva]
  · exact datos

theorem conectarWorker_lleva (inv : EnLinea s) (id : Int)
    (libre : ∀ c, c < s.cantidadConexiones → (s.conexiones c).vigilante ≠ .terminado →
      (s.conexiones c).id ≠ id) : Lleva s (conectarWorker s id) := by
  have nueva : EnOrden s.cantidadConexiones (.nueva id .conectada) := enOrden_nueva ⟨rfl, rfl⟩
  have vistas : (fun c => vista (Function.update s.conexiones s.cantidadConexiones
      (.nueva id .conectada) c)) =
      Function.update (cuaderno s).vistas s.cantidadConexiones (.nueva id) :=
    Function.comp_update vista s.conexiones _ _
  constructor
  · intro o
    by_cases h : o = s.cantidadConexiones
    · subst h
      simpa [conectarWorker] using nueva
    · simpa [conectarWorker, h] using inv.conexiones o
  · simp only [cuaderno, conectarWorker, vistas]
    refine .conecta id fun c en viva => libre c en ?_
    simpa [cuaderno, vista] using viva

theorem atenderWorkerInterrupt_lleva (inv : EnLinea s)
    (reg : registrada (s.conexiones c).despachador = true) :
    Lleva s (atenderWorkerInterrupt s c) := by
  have orden := inv.conexiones c
  by_cases sin : (s.conexiones c).vigilante = .ninguno
  · have propio := obtener_propio inv reg (by simp [sin])
    simp only [atenderWorkerInterrupt, sin, propio]
    rw [enConexion_vigilantePasaA]
    refine cambia_callada inv ?_ ?_ rfl rfl
    · exact { orden with
        objeto := fun _ same => (Option.some.inj same).symm
        vigilada := fun _ => reg
        fin := fun f => orden.fin (f.imp_right (by simp))
        marcada := fun m => by simpa [sin, avisado] using orden.marcada m
        cierre := by simp [avisado]
        abierta := fun _ => by simp }
    · simp [vista, sin, descontado]
  · unfold atenderWorkerInterrupt
    split
    · next h _ => exact (sin h).elim
    · exact lleva_refl inv

theorem reportar_lleva (inv : EnLinea s) {m a : Paquete} {resto : List Paquete}
    (tiene : (s.conexiones c).asignaciones = a :: resto) (suya : a.entero 1 = some q)
    (informa : Lectura q m ∨ Cierre q m) : Lleva s (reportar s c m) := by
  have orden := inv.conexiones c
  have despacho := orden.despacho
  obtain ⟨t, h⟩ : ∃ t, (s.conexiones c).despachador = .atendiendo t := by
    cases h : (s.conexiones c).despachador with
    | atendiendo t => exact ⟨t, rfl⟩
    | _ =>
      simp only [Despacho, h, SinCorreo] at despacho
      simp [tiene] at despacho
  simp only [Despacho, h] at despacho
  rcases despacho with ⟨b, una, deT, lecturas⟩ | ⟨ninguna, _⟩
  · obtain ⟨rfl, rfl⟩ : a = b ∧ resto = [] := by simpa [tiene] using una
    obtain rfl : t = q := Option.some.inj (deT.symm.trans suya)
    have sigue : Pendiente t { s.conexiones c with
        entrada := (s.conexiones c).entrada ++ [m]
        asignaciones := if m.terminaAsignacion then (s.conexiones c).asignaciones.tail
          else (s.conexiones c).asignaciones } := by
      rcases informa with lectura | cierre
      · obtain ⟨p, contenido, pc, rfl⟩ := lectura
        refine .inl ⟨a, by simpa [readResult_continues] using una, deT, ?_⟩
        intro l hl
        rcases List.mem_append.mp hl with vieja | nueva
        · exact lecturas l vieja
        · exact ⟨p, contenido, pc, List.mem_singleton.mp nueva⟩
      · refine .inr ⟨?_, _, m, rfl, lecturas, cierre⟩
        simp [desenlace_terminaAsignacion cierre.1, una]
    have nueva : EnOrden c { s.conexiones c with
        entrada := (s.conexiones c).entrada ++ [m]
        asignaciones := if m.terminaAsignacion then (s.conexiones c).asignaciones.tail
          else (s.conexiones c).asignaciones } := by
      refine enOrden_pasa orden (by simp [h]) id ?_
      simpa only [Despacho, h] using sigue
    exact cambia_callada inv nueva rfl rfl rfl
  · simp [tiene] at ninguna

theorem lleva_of_marco (inv : EnLinea s) (same : marco s' = marco s)
    (ids : ∀ q, (s'.queries q).idWorker = (s.queries q).idWorker) : Lleva s s' := by
  constructor
  · intro c
    have ajena (con : Conexion) : EnOrden c con = EnOrden c (Conexion.sinAvisos con) :=
      propext ⟨fun h => { h with }, fun h => { h with }⟩
    exact (proy_of_marco (EnOrden c) same c ajena).mpr (inv.conexiones c)
  · have mismo : cuaderno s' = cuaderno s := by
      have vistas (c : Nat) := proy_of_marco vista same c fun _ => rfl
      simp only [marco, Prod.mk.injEq] at same
      simp only [cuaderno, same, ids, vistas]
    rw [mismo]
    exact .nada

end MasterConexiones
