import MasterOfFiles.Master.Libro
import MasterOfFiles.QueryControl.Consola

/-!
The READs of a query from the Workers that run it to its Query Control. Each is sent on once, in
the order of the reports, also when the query goes on with another Worker.
-/
namespace QueryControlLecturas
open Mensajes MasterEstado MasterManejo MasterHilos MasterMarcos MasterLugares MasterConexiones
open MasterLibro WorkerInformes QueryControl GuardedRuns

variable {config : Config} {s s' : Master} {c : Nat} {q : Int} {e : Evento} {m : Paquete}

def lecturas (ms : List Paquete) : List Paquete := ms.filter fun m => !esTerminal m

def lecturaDe (m : Paquete) : Option Paquete :=
  match manejo m with
  | some (.lectura _ _ respuesta) => some respuesta
  | _ => none

def leidaDe (q : Int) : Evento → Option Paquete
  | .reporta _ m => if m.queryId = some q then lecturaDe m else none
  | _ => none

def leidas (es : List Evento) (q : Int) : List Paquete := es.filterMap (leidaDe q)

/-- The READs on their way to the Master. -/
def porLeer (con : Conexion) : List Paquete := con.entrada.filterMap lecturaDe

theorem lectura_lecturaDe (h : Lectura q m) :
    ∃ respuesta pc, manejo m = some (.lectura q pc respuesta) ∧ lecturaDe m = some respuesta ∧
      esTerminal respuesta = false ∧ m.queryId = some q := by
  obtain ⟨p, contenido, pc, rfl⟩ := h
  exact ⟨_, pc, rfl, rfl, rfl, rfl⟩

theorem cierre_lecturaDe (h : Cierre q m) : lecturaDe m = none := by
  unfold lecturaDe
  rcases manejo_desenlace h.1 with ⟨_, _, lee, _⟩ | ⟨_, lee, _⟩ | ⟨lee, _⟩ | ⟨lee, _⟩
  all_goals rw [lee]

/-- What was reported for a query is what was sent on and, while a thread attends it, what waits
    for that thread. -/
structure Relatado (s : Master) (log : Int → List Paquete) : Prop where
  atiende : ∀ c q, (s.conexiones c).despachador = .atendiendo q →
    log q = lecturas (s.queries q).respuestas ++ porLeer (s.conexiones c)
  nadie : ∀ q, (∀ c, (s.conexiones c).despachador ≠ .atendiendo q) →
    log q = lecturas (s.queries q).respuestas
  nuevas : ∀ q, s.idQuery ≤ q → log q = []

variable {log : Int → List Paquete}

theorem activa_una (inv : EnLinea s) {o : Nat} (h : activa (s.conexiones c).despachador = some q)
    (h' : activa (s.conexiones o).despachador = some q) : c = o :=
  inv.asientos.reparto.unica c o q h h'

theorem atiende_vieja (inv : EnLinea s) (h : (s.conexiones c).despachador = .atendiendo q) :
    q < s.idQuery := by
  have corre : q ∈ s.queryEnWorker := activa_en inv (by rw [h]; rfl)
  exact inv.ordenado.llegadas q (inv.ordenado.puestas q .running corre).1

structure Igual (s s' : Master) : Prop where
  despachador : ∀ c, (s'.conexiones c).despachador = (s.conexiones c).despachador
  entrada : ∀ c, (s'.conexiones c).entrada = (s.conexiones c).entrada
  lecturas : ∀ q, lecturas (s'.queries q).respuestas = lecturas (s.queries q).respuestas
  idQuery : s'.idQuery = s.idQuery

theorem igual_refl (s : Master) : Igual s s := ⟨fun _ => rfl, fun _ => rfl, fun _ => rfl, rfl⟩

theorem relatado_igual (same : Igual s s') (h : Relatado s log) : Relatado s' log := by
  constructor
  · intro c q en
    rw [same.despachador] at en
    rw [same.lecturas, porLeer, same.entrada]
    exact h.atiende c q en
  · intro q nadie
    rw [same.lecturas]
    refine h.nadie q fun c => ?_
    rw [← same.despachador]
    exact nadie c
  · rw [same.idQuery]
    exact h.nuevas

theorem relatado_pasa (same : ∀ o, o ≠ c → (s'.conexiones o).despachador =
      (s.conexiones o).despachador ∧ (s'.conexiones o).entrada = (s.conexiones o).entrada)
    (antes : ∀ q, (s.conexiones c).despachador ≠ .atendiendo q)
    (ahora : ∀ q, (s'.conexiones c).despachador ≠ .atendiendo q)
    (sent : ∀ q, lecturas (s'.queries q).respuestas = lecturas (s.queries q).respuestas)
    (ids : s'.idQuery = s.idQuery) (h : Relatado s log) : Relatado s' log := by
  constructor
  · intro o q en
    have otra : o ≠ c := fun igual => ahora q (igual ▸ en)
    rw [(same o otra).1] at en
    rw [sent, porLeer, (same o otra).2]
    exact h.atiende o q en
  · intro q nadie
    rw [sent]
    refine h.nadie q fun o en => ?_
    by_cases otra : o = c
    · exact antes q (otra ▸ en)
    · exact nadie o ((same o otra).1.trans en)
  · rw [ids]
    exact h.nuevas

theorem lecturas_responder {t : Query} {respuesta : Paquete} (h : esTerminal respuesta = true) :
    lecturas (t.responder respuesta).respuestas = lecturas t.respuestas := by
  simp [lecturas, Query.responder, h]

theorem lecturas_enQuery (u q : Int) {f : Query → Query}
    (keeps : lecturas (f (s.queries u)).respuestas = lecturas (s.queries u).respuestas) :
    lecturas ((s.enQuery u f).queries q).respuestas = lecturas (s.queries q).respuestas := by
  by_cases same : q = u
  · subst same
    simpa [Master.enQuery] using keeps
  · simp [Master.enQuery, same]

theorem igual_of_marco (same : marco s' = marco s)
    (sent : ∀ q, (s'.queries q).respuestas = (s.queries q).respuestas) : Igual s s' := by
  refine ⟨fun c => ?_, fun c => ?_, fun q => by rw [sent], ?_⟩
  · exact proy_of_marco Conexion.despachador same c fun _ => rfl
  · exact proy_of_marco Conexion.entrada same c fun _ => rfl
  · simp only [marco, Prod.mk.injEq] at same
    exact same.1

theorem respuestas_sola {t : Query} (u : Int) (queries : s'.queries = Function.update s.queries u t)
    (same : t.respuestas = (s.queries u).respuestas) (q : Int) :
    (s'.queries q).respuestas = (s.queries q).respuestas := by
  rw [queries]
  by_cases h : q = u
  · subst h
    simpa using same
  · simp [h]

theorem atenderTimerQuery_respuestas (q u : Int) :
    ((atenderTimerQuery config s u).queries q).respuestas = (s.queries q).respuestas := by
  unfold atenderTimerQuery
  dsimp only
  split
  · split
    · refine respuestas_sola u rfl ?_ q
      rfl
    · split
      · rfl
      · split <;> rfl
  · split <;> rfl
  · exact congrArg (fun f => (f q).respuestas) (realizarDesalojo_queries s _ _)
  · split
    · rfl
    · split <;> rfl
  · split
    · rfl
    · refine respuestas_sola u rfl ?_ q
      rfl
  · rfl
  · rfl

theorem atenderDesconexionQuery_respuestas (q u : Int) :
    ((atenderDesconexionQuery config s u).queries q).respuestas = (s.queries q).respuestas := by
  unfold atenderDesconexionQuery
  dsimp only
  cases s.vigias u with
  | pendiente =>
    dsimp only
    split
    · refine respuestas_sola u rfl ?_ q
      rfl
    · rfl
  | avisada | evaluada =>
    dsimp only
    split <;> rfl
  | desalojando d => exact congrArg (fun f => (f q).respuestas) (realizarDesalojo_queries s _ _)
  | saliendo =>
    refine respuestas_sola u rfl ?_ q
    dsimp only
    split <;> rfl
  | _ => rfl

theorem vigilantePasaA_entrada (c o : Nat) (v : Vigilante) :
    ((s.vigilantePasaA c v).conexiones o).entrada = (s.conexiones o).entrada :=
  proy_enConexion Conexion.entrada c o fun _ => rfl

theorem igual_vigilar : Igual s (vigilar s c) := by
  have ids : (vigilar s c).idQuery = s.idQuery := by
    have same := vigilar_registro (s := s) (c := c)
    simp only [registro, Prod.mk.injEq] at same
    exact same.2.1
  refine ⟨fun o => congrArg Prod.snd (vigilar_ficha (o := c)), fun o => ?_, fun q => ?_, ids⟩
  · unfold vigilar
    cases (s.conexiones c).vigilante with
    | vigilando w | esperando w =>
      dsimp only
      split
      all_goals
        first
        | rfl
        | exact (vigilantePasaA_entrada c o _).trans
            (proy_enConexion Conexion.entrada _ o fun _ => rfl)
    | descontado w =>
      dsimp only
      split <;> exact vigilantePasaA_entrada c o _
    | marcado | avisando | liberado => exact vigilantePasaA_entrada c o _
    | ninguno | terminado => rfl
  · unfold vigilar
    cases (s.conexiones c).vigilante with
    | vigilando w | esperando w =>
      dsimp only
      split <;> rfl
    | descontado w =>
      dsimp only
      split
      · rfl
      · refine congrArg lecturas (respuestas_sola _ rfl ?_ q)
        rfl
    | avisando w t => exact lecturas_enQuery t q (lecturas_responder rfl)
    | marcado | liberado | ninguno | terminado => rfl

theorem entrada_pasaA (c o : Nat) (d : Despachador) :
    ((s.pasaA c d).conexiones o).entrada = (s.conexiones o).entrada :=
  proy_enConexion Conexion.entrada c o fun _ => rfl

structure Callada (s : Master) (c : Nat) (s' : Master) : Prop where
  entrada : ∀ o, (s'.conexiones o).entrada = (s.conexiones o).entrada
  libre : ∀ q, (s'.conexiones c).despachador ≠ .atendiendo q
  lecturas : ∀ q, lecturas (s'.queries q).respuestas = lecturas (s.queries q).respuestas

theorem callada_pasaA {d : Despachador} (libre : ∀ q, d ≠ .atendiendo q)
    (entrada : ∀ o, (s'.conexiones o).entrada = (s.conexiones o).entrada)
    (sent : ∀ q, QueryControlLecturas.lecturas (s'.queries q).respuestas =
      QueryControlLecturas.lecturas (s.queries q).respuestas) : Callada s c (s'.pasaA c d) := by
  refine ⟨fun o => (entrada_pasaA c o d).trans (entrada o), fun q => ?_, sent⟩
  simpa [Master.pasaA, Master.enConexion] using libre q

theorem despachar_callada (inv : EnLinea s)
    (libre : ∀ q, (s.conexiones c).despachador ≠ .atendiendo q)
    (sinAsignar : ∀ idWorker q, (s.conexiones c).despachador ≠ .agregada idWorker q) :
    Callada s c (despachar config s c) := by
  have despacho := (inv.conexiones c).despacho
  have igual : Callada s c s := ⟨fun _ => rfl, libre, fun _ => rfl⟩
  have pasa {s' : Master} {d : Despachador} (quieto : ∀ q, d ≠ .atendiendo q)
      (conexiones : s'.conexiones = s.conexiones) (queries : s'.queries = s.queries) :
      Callada s c (s'.pasaA c d) :=
    callada_pasaA quieto (fun o => by rw [conexiones]) fun q => by rw [queries]
  unfold despachar
  cases h : (s.conexiones c).despachador with
  | esperaToken idWorker =>
    dsimp only
    split
    · exact igual
    · exact pasa (by simp) rfl rfl
  | conToken idWorker =>
    dsimp only
    split
    · exact pasa (by simp) rfl rfl
    · split <;> exact pasa (by simp) rfl rfl
  | invalido worker =>
    cases worker with
    | none => exact pasa (by simp) rfl rfl
    | some w =>
      exact callada_pasaA (by simp) (fun o => proy_enConexion Conexion.entrada w o fun _ => rfl)
        fun _ => rfl
  | validado idWorker =>
    dsimp only
    split <;> exact pasa (by simp) rfl rfl
  | conectada | contada | encolando => exact pasa (by simp) rfl rfl
  | sosteniendo idWorker t | corriendo idWorker t | reencolando t pc =>
    refine callada_pasaA (by simp) (fun _ => rfl) fun q => ?_
    refine congrArg lecturas (respuestas_sola t rfl ?_ q)
    rfl
  | avisando t =>
    refine callada_pasaA (by simp) (fun _ => rfl) fun q => ?_
    refine congrArg lecturas (respuestas_sola t rfl ?_ q)
    cases config.algoritmo <;> rfl
  | completando t respuesta =>
    simp only [Despacho, h] at despacho
    refine callada_pasaA (by simp) (fun _ => rfl) fun q => ?_
    refine lecturas_enQuery t q ?_
    exact lecturas_responder despacho.1
  | agregada idWorker t => exact (sinAsignar idWorker t h).elim
  | atendiendo t => exact (libre t h).elim
  | ninguno | abandonada | roto | fin => exact igual

theorem despachador_ajeno {o : Nat} (h : o ≠ c) :
    ((despachar config s c).conexiones o).despachador = (s.conexiones o).despachador :=
  congrArg Prod.snd (despachar_ajena h)

theorem relatado_otra (inv : EnLinea s) (libre : ∀ q, (s.conexiones c).despachador ≠ .atendiendo q)
    (sinAsignar : ∀ idWorker q, (s.conexiones c).despachador ≠ .agregada idWorker q)
    (h : Relatado s log) : Relatado (despachar config s c) log := by
  have callada : Callada s c (despachar config s c) := despachar_callada inv libre sinAsignar
  have ids : (despachar config s c).idQuery = s.idQuery := by
    have same : registro (despachar config s c) = registro s := despachar_registro
    simp only [registro, Prod.mk.injEq] at same
    exact same.2.1
  exact relatado_pasa (fun o otra => ⟨despachador_ajeno otra, callada.entrada o⟩) libre
    callada.libre callada.lecturas ids h

theorem relatado_asigna (inv : EnLinea s) {idWorker : Int}
    (en : (s.conexiones c).despachador = .agregada idWorker q) (h : Relatado s log) :
    Relatado (despachar config s c) log := by
  have despacho := (inv.conexiones c).despacho
  simp only [Despacho, en] at despacho
  obtain ⟨_, _, vacia⟩ := despacho
  have nadie (o : Nat) : (s.conexiones o).despachador ≠ .atendiendo q := by
    intro atiende
    have same : c = o := activa_una (q := q) inv (by rw [en]; rfl) (by rw [atiende]; rfl)
    rw [← same, en] at atiende
    contradiction
  have paso : despachar config s c = s.enConexion c fun con => { con with
      asignaciones := con.asignaciones ++ [workerAssignQuery q (s.queries q)]
      despachador := .atendiendo q } := by
    simp only [despachar, en]
  rw [paso]
  have aqui : ((s.enConexion c fun con => { con with
      asignaciones := con.asignaciones ++ [workerAssignQuery q (s.queries q)]
      despachador := .atendiendo q }).conexiones c) = { s.conexiones c with
        asignaciones := (s.conexiones c).asignaciones ++ [workerAssignQuery q (s.queries q)]
        despachador := .atendiendo q } := Function.update_self ..
  constructor
  · intro o t atiende
    by_cases same : o = c
    · subst same
      rw [aqui] at atiende ⊢
      obtain rfl : q = t := Despachador.atendiendo.inj atiende
      rw [porLeer, vacia, List.filterMap_nil, List.append_nil]
      exact h.nadie q nadie
    · rw [conexiones_ajena same] at atiende ⊢
      exact h.atiende o t atiende
  · intro t libre
    refine h.nadie t fun o atiende => ?_
    by_cases same : o = c
    · rw [same, en] at atiende
      contradiction
    · exact libre o ((congrArg Conexion.despachador (conexiones_ajena same)).trans atiende)
  · exact h.nuevas

theorem relatado_cierra (en : (s.conexiones c).despachador = .atendiendo q)
    (nada : porLeer (s.conexiones c) = [])
    (same : ∀ o, o ≠ c → s'.conexiones o = s.conexiones o)
    (ahora : ∀ t, (s'.conexiones c).despachador ≠ .atendiendo t)
    (queries : s'.queries = s.queries) (ids : s'.idQuery = s.idQuery) (h : Relatado s log) :
    Relatado s' log := by
  constructor
  · intro o t atiende
    have otra : o ≠ c := fun igual => ahora t (igual ▸ atiende)
    rw [same o otra] at atiende ⊢
    rw [queries]
    exact h.atiende o t atiende
  · intro t nadie
    rw [queries]
    by_cases suya : t = q
    · have whole := h.atiende c q en
      rwa [nada, List.append_nil, ← suya] at whole
    · refine h.nadie t fun o atiende => ?_
      by_cases otra : o = c
      · rw [otra, en] at atiende
        exact suya (Despachador.atendiendo.inj atiende).symm
      · exact nadie o (by rwa [same o otra])
  · rw [ids]
    exact h.nuevas

theorem relatado_sigue (inv : EnLinea s) {log' : Int → List Paquete}
    (en : (s.conexiones c).despachador = .atendiendo q)
    (sigue : (s'.conexiones c).despachador = .atendiendo q)
    (same : ∀ o, o ≠ c → s'.conexiones o = s.conexiones o)
    (otras : ∀ t, t ≠ q → log' t = log t ∧
      (s'.queries t).respuestas = (s.queries t).respuestas)
    (suya : log' q = lecturas (s'.queries q).respuestas ++ porLeer (s'.conexiones c))
    (ids : s'.idQuery = s.idQuery) (h : Relatado s log) : Relatado s' log' := by
  constructor
  · intro o t atiende
    by_cases otra : o = c
    · subst otra
      obtain rfl : q = t := Despachador.atendiendo.inj (sigue.symm.trans atiende)
      exact suya
    · rw [same o otra] at atiende ⊢
      have distinta : t ≠ q := by
        rintro rfl
        exact otra (activa_una (q := t) inv (by rw [atiende]; rfl) (by rw [en]; rfl))
      rw [(otras t distinta).1, (otras t distinta).2]
      exact h.atiende o t atiende
  · intro t nadie
    have distinta : t ≠ q := by
      rintro rfl
      exact nadie c sigue
    rw [(otras t distinta).1, (otras t distinta).2]
    refine h.nadie t fun o atiende => ?_
    by_cases otra : o = c
    · rw [otra, en] at atiende
      exact distinta (Despachador.atendiendo.inj atiende).symm
    · exact nadie o (by rwa [same o otra])
  · intro t nueva
    have distinta : t ≠ q := by
      rintro rfl
      exact Int.not_lt.mpr (ids ▸ nueva) (atiende_vieja inv en)
    rw [(otras t distinta).1]
    exact h.nuevas t (ids ▸ nueva)

theorem relatado_lee (inv : EnLinea s) (en : (s.conexiones c).despachador = .atendiendo q)
    {resto : List Paquete} (llega : (s.conexiones c).entrada = m :: resto) (h : Relatado s log) :
    Relatado (manejar (s.enConexion c fun con => { con with entrada := resto }) c q (manejo m))
      log := by
  have despacho := (inv.conexiones c).despacho
  simp only [Despacho, en] at despacho
  have enWorker : q ∈ s.queryEnWorker := activa_en inv (by rw [en]; rfl)
  have corre : q ∈ (s.enConexion c fun con => { con with entrada := resto }).queryEnWorker :=
    enWorker
  rcases pendiente_lee despacho llega with ⟨lectura, _⟩ | ⟨cierre, sin⟩
  · obtain ⟨respuesta, pc, lee, leida, noFin, _⟩ := lectura_lecturaDe lectura
    have whole := h.atiende c q en
    rw [porLeer, llega, List.filterMap_cons_some leida] at whole
    rw [lee]
    simp only [manejar]
    rw [if_pos corre]
    refine relatado_sigue (c := c) (q := q) inv en ?_ ?_ ?_ ?_ rfl h
    · simp [Master.enQuery, Master.enConexion, en]
    · intro o otra
      simp [Master.enQuery, Master.enConexion, otra]
    · exact fun t otra => ⟨rfl, by simp [Master.enQuery, Master.enConexion, otra]⟩
    · have mas : lecturas ((s.queries q).respuestas ++ [respuesta]) =
          lecturas (s.queries q).respuestas ++ [respuesta] := by simp [lecturas, noFin]
      simp only [Master.enQuery, Master.enConexion, Query.responder, Function.update_self, porLeer,
        mas, List.append_assoc, List.singleton_append]
      exact whole
  · have vacia : resto = [] := sin.2
    have nada : porLeer (s.conexiones c) = [] := by
      rw [porLeer, llega, vacia, List.filterMap_cons_none (cierre_lecturaDe cierre)]
      rfl
    have deja {s' : Master} {d : Despachador} (quieto : ∀ t, d ≠ .atendiendo t)
        (conexiones : s'.conexiones =
          (s.enConexion c fun con => { con with entrada := resto }).conexiones)
        (queries : s'.queries = s.queries) (ids : s'.idQuery = s.idQuery) :
        Relatado (s'.pasaA c d) log := by
      refine relatado_cierra en nada (fun o otra => ?_) (fun t => ?_) queries ids h
      · rw [Master.pasaA, conexiones_ajena otra, conexiones, conexiones_ajena otra]
      · simpa [Master.pasaA, Master.enConexion] using quieto t
    rcases manejo_desenlace cierre.1 with ⟨_, _, lee, _⟩ | ⟨_, lee, _⟩ | ⟨_, codigo⟩ | ⟨lee, _⟩
    · rw [lee]
      simp only [manejar]
      rw [if_pos corre]
      exact deja (by simp) rfl rfl rfl
    · rw [lee]
      simp only [manejar]
      rw [if_pos corre]
      exact deja (by simp) rfl rfl rfl
    · exact (cierre.2 codigo).elim
    · rw [lee]
      exact deja (by simp) rfl rfl rfl

theorem relatado_despacho (inv : EnLinea s) (atento : Atento s c) (h : Relatado s log) :
    Relatado (despachar config s c) log := by
  by_cases atiende : ∃ q, (s.conexiones c).despachador = .atendiendo q
  · obtain ⟨q, en⟩ := atiende
    have abierto := atento q en
    simp only [despachar, en, atenderWorker, abierto, Bool.false_eq_true, if_false]
    cases llega : (s.conexiones c).entrada with
    | nil => exact h
    | cons m resto => exact relatado_lee inv en llega h
  by_cases asigna : ∃ idWorker q, (s.conexiones c).despachador = .agregada idWorker q
  · obtain ⟨idWorker, q, en⟩ := asigna
    exact relatado_asigna inv en h
  · exact relatado_otra inv (fun q en => atiende ⟨q, en⟩)
      (fun idWorker q en => asigna ⟨idWorker, q, en⟩) h

theorem informa_atiende (inv : EnLinea s) (informa : Informa s c m) :
    ∃ q, (s.conexiones c).despachador = .atendiendo q ∧ (Lectura q m ∨ Cierre q m) := by
  obtain ⟨a, resto, q, tiene, suya, kind⟩ := informa
  have despacho := (inv.conexiones c).despacho
  obtain ⟨t, en⟩ : ∃ t, (s.conexiones c).despachador = .atendiendo t := by
    cases h : (s.conexiones c).despachador with
    | atendiendo t => exact ⟨t, rfl⟩
    | _ =>
      simp only [Despacho, h, SinCorreo] at despacho
      simp [tiene] at despacho
  simp only [Despacho, en] at despacho
  rcases despacho with ⟨b, una, deT, _⟩ | ⟨ninguna, _⟩
  · obtain ⟨rfl, _⟩ : a = b ∧ resto = [] := by simpa [tiene] using una
    obtain rfl : t = q := Option.some.inj (deT.symm.trans suya)
    exact ⟨t, en, kind⟩
  · simp [tiene] at ninguna

theorem leidaDe_reporta (kind : Lectura q m ∨ Cierre q m) (t : Int) :
    leidaDe t (.reporta c m) = if t = q then lecturaDe m else none := by
  have id_ : m.queryId = some q := by
    rcases kind with lectura | cierre
    · obtain ⟨_, _, _, _, _, id_⟩ := lectura_lecturaDe lectura
      exact id_
    · exact desenlace_queryId cierre.1
  by_cases same : t = q
  · simp [leidaDe, id_, same]
  · simp [leidaDe, id_, same, Ne.symm same]

theorem relatado_reporta (inv : EnLinea s) (informa : Informa s c m) (h : Relatado s log) :
    Relatado (reportar s c m) fun q => log q ++ (leidaDe q (.reporta c m)).toList := by
  obtain ⟨q, en, kind⟩ := informa_atiende inv informa
  have leida := leidaDe_reporta (c := c) kind
  refine relatado_sigue (c := c) (q := q) inv en ?_ ?_ ?_ ?_ rfl h
  · simp [reportar, Master.enConexion, en]
  · exact fun o otra => conexiones_ajena otra
  · intro t otra
    rw [leida, if_neg otra]
    exact ⟨List.append_nil _, rfl⟩
  · have whole := h.atiende c q en
    rw [leida, if_pos rfl, whole]
    simp only [porLeer, reportar, Master.enConexion, Function.update_self, List.filterMap_append,
      List.append_assoc]
    congr 2

theorem relatado_llega (h : Relatado s log) (inv : EnLinea s) (path : String)
    (prioridad basura : Int) : Relatado (nuevaQuery s path prioridad basura) log := by
  have vieja (q : Int) (otra : q ≠ s.idQuery) :
      (nuevaQuery s path prioridad basura).queries q = s.queries q := by
    simp [nuevaQuery, otra]
  have nueva : ((nuevaQuery s path prioridad basura).queries s.idQuery).respuestas = [] := by
    simp [nuevaQuery]
  constructor
  · intro c q en
    have otra : q ≠ s.idQuery := Int.ne_of_lt (atiende_vieja inv en)
    rw [vieja q otra]
    exact h.atiende c q en
  · intro q nadie
    by_cases otra : q = s.idQuery
    · rw [otra, nueva]
      exact h.nuevas _ (Int.le_refl _)
    · rw [vieja q otra]
      exact h.nadie q nadie
  · intro q hq
    exact h.nuevas q (Int.le_trans (Int.le_add_one (Int.le_refl _)) hq)

theorem relatado_conecta (inv : EnLinea s) (id : Int) (h : Relatado s log) :
    Relatado (conectarWorker s id) log := by
  have sin (q : Int) : (s.conexiones s.cantidadConexiones).despachador ≠ .atendiendo q := by
    rw [inv.ordenado.nuevas s.cantidadConexiones (Nat.le_refl _)]
    nofun
  refine relatado_pasa (s := s) (c := s.cantidadConexiones) ?_ sin ?_ (fun _ => rfl) rfl h
  · intro o otra
    simp [conectarWorker, otra]
  · simp [conectarWorker, Conexion.nueva]

theorem relatado_paso (inv : EnLinea s) (previsto : Previsto s e) (guarda : seguro s e = true)
    (h : Relatado s log) : Relatado (paso config s e) fun q => log q ++ (leidaDe q e).toList := by
  have callado {s' : Master} (sin : ∀ q, leidaDe q e = none) (after : Relatado s' log) :
      Relatado s' fun q => log q ++ (leidaDe q e).toList := by
    have same : (fun q => log q ++ (leidaDe q e).toList) = log := by
      funext q
      rw [sin, Option.toList_none, List.append_nil]
    rwa [same]
  cases e with
  | reporta c m =>
    rcases previsto with no | ⟨c, m, same, informa⟩
    · simp [permitido] at no
    · cases same
      exact relatado_reporta inv informa h
  | conectaWorker id => exact callado (fun _ => rfl) (relatado_conecta inv id h)
  | despacho c =>
    exact callado (fun _ => rfl) (relatado_despacho inv (atento_of_seguro guarda) h)
  | llega path prioridad basura =>
    exact callado (fun _ => rfl) (relatado_llega h inv path prioridad basura)
  | vigilante c => exact callado (fun _ => rfl) (relatado_igual igual_vigilar h)
  | conectaInterrupcion c =>
    refine callado (fun _ => rfl) (relatado_igual ?_ h)
    simp only [paso, atenderWorkerInterrupt]
    split
    · refine ⟨fun o => ?_, fun o => ?_, fun _ => rfl, rfl⟩
      · refine Eq.trans (proy_enConexion Conexion.despachador c o ?_)
          (proy_enConexion Conexion.despachador _ o ?_)
        · exact fun _ => rfl
        · exact fun _ => rfl
      · refine Eq.trans (proy_enConexion Conexion.entrada c o ?_)
          (proy_enConexion Conexion.entrada _ o ?_)
        · exact fun _ => rfl
        · exact fun _ => rfl
    · exact igual_refl s
  | cierraWorker c =>
    refine callado (fun _ => rfl) (relatado_igual ?_ h)
    simp only [paso]
    refine ⟨fun o => ?_, fun o => ?_, fun _ => rfl, rfl⟩
    · refine proy_enConexion Conexion.despachador c o ?_
      exact fun _ => rfl
    · refine proy_enConexion Conexion.entrada c o ?_
      exact fun _ => rfl
  | consulta q =>
    refine callado (fun _ => rfl) (relatado_igual (igual_of_marco atenderQuery_marco ?_) h)
    exact fun u => congrArg (fun f => (f u).respuestas) (atenderQuery_queries config)
  | timer q =>
    exact callado (fun _ => rfl) (relatado_igual (igual_of_marco atenderTimerQuery_marco
      fun u => atenderTimerQuery_respuestas u q) h)
  | cierraQuery q =>
    refine callado (fun _ => rfl) (relatado_igual ?_ h)
    exact ⟨fun _ => rfl, fun _ => rfl, fun _ => rfl, rfl⟩
  | desconexion q =>
    exact callado (fun _ => rfl) (relatado_igual (igual_of_marco atenderDesconexionQuery_marco
      fun u => atenderDesconexionQuery_respuestas u q) h)

theorem relatado_inicial : Relatado masterInicial fun _ => [] :=
  ⟨fun _ _ en => by contradiction, fun _ _ => rfl, fun _ _ => rfl⟩

theorem relatado_correr {es : List Evento}
    (h : Along (paso config) (fun s e => Previsto s e ∧ seguro s e = true) s es)
    (inv : EnLinea s) (before : Relatado s log) :
    Relatado (correr config s es) fun q => log q ++ leidas es q := by
  induction es generalizing s log with
  | nil => simpa [leidas] using before
  | cons e es ih =>
    obtain ⟨⟨previsto, guarda⟩, rest⟩ := h
    have step : Relatado (paso config s e) fun q => log q ++ (leidaDe q e).toList :=
      relatado_paso inv previsto guarda before
    have all := ih rest (enLinea_paso inv previsto guarda) step
    have same : (fun q => log q ++ leidas (e :: es) q) =
        fun q => (log q ++ (leidaDe q e).toList) ++ leidas es q := by
      funext q
      rw [List.append_assoc, leidas, leidas, List.filterMap_cons]
      cases leidaDe q e <;> rfl
    rw [correr_cons, same]
    exact all

def mostradas (ms : List Paquete) : List Paquete := ms.takeWhile fun m => !esTerminal m

def ultima (ms : List Paquete) : String := ((ms.find? esTerminal).bind linea).getD queryDesconectada

theorem lecturas_mostradas (ms : List Paquete) :
    lecturas ms = mostradas ms ++ lecturas (sobrantes ms) := by
  induction ms with
  | nil => rfl
  | cons m ms ih =>
    cases fin : esTerminal m with
    | true => simp [lecturas, mostradas, sobrantes, fin]
    | false => simpa [lecturas, mostradas, sobrantes, fin] using ih

theorem pantalla_mostradas {ms : List Paquete} (legibles : ∀ m ∈ ms, Legible m) :
    pantalla ms = (mostradas ms).filterMap linea ++ [ultima ms] := by
  induction ms with
  | nil => rfl
  | cons m ms ih =>
    obtain ⟨texto, dice⟩ := Option.isSome_iff_exists.mp (legibles m List.mem_cons_self).1
    have rest := ih fun m hm => legibles m (List.mem_cons_of_mem _ hm)
    cases fin : esTerminal m with
    | true => simp [pantalla, mostradas, ultima, fin, dice]
    | false =>
      simp only [pantalla, fin, dice, rest, mostradas, ultima, List.takeWhile_cons, Bool.not_false,
        if_true, List.filterMap_cons_some dice, List.find?_cons_of_neg, Bool.false_eq_true,
        not_false_eq_true, Option.toList_some, List.cons_append, List.nil_append, if_false]

/-- The READs reported for q are those that its Query Control shows, those that come after the
    end of the query, and those that its thread has still to read, in that order. -/
structure Entregadas (s : Master) (q : Int) (reportadas enCamino : List Paquete) : Prop where
  orden : reportadas = mostradas (s.queries q).respuestas ++
    lecturas (sobrantes (s.queries q).respuestas) ++ enCamino
  camino : enCamino ≠ [] → ∃ c, (s.conexiones c).despachador = .atendiendo q ∧
    enCamino = porLeer (s.conexiones c)
  pantalla : ∃ socket, enviadas (s.queries q).respuestas = some socket ∧
    ∀ turnos, (s.queries q).respuestas.length < turnos →
      procesarRespuestasMaster turnos socket =
        some ((mostradas (s.queries q).respuestas).filterMap linea ++
            [ultima (s.queries q).respuestas],
          (sobrantes (s.queries q).respuestas).flatMap enSocket)

theorem entregadas_of_relatado {reportadas : Int → List Paquete} (h : Relatado s reportadas)
    (legibles : ∀ m ∈ (s.queries q).respuestas, Legible m)
    (fit : ∀ m ∈ (s.queries q).respuestas, CabePaquete m) :
    ∃ enCamino, Entregadas s q (reportadas q) enCamino := by
  have shown : ∃ socket, enviadas (s.queries q).respuestas = some socket ∧
      ∀ turnos, (s.queries q).respuestas.length < turnos →
        procesarRespuestasMaster turnos socket =
          some ((mostradas (s.queries q).respuestas).filterMap linea ++
              [ultima (s.queries q).respuestas],
            (sobrantes (s.queries q).respuestas).flatMap enSocket) := by
    refine ⟨_, enviadas_enSocket _ fit, fun turnos enough => ?_⟩
    rw [← pantalla_mostradas legibles]
    exact procesarRespuestasMaster_pantalla _ legibles fit turnos enough
  by_cases atiende : ∃ c, (s.conexiones c).despachador = .atendiendo q
  · obtain ⟨c, en⟩ := atiende
    refine ⟨_, ?_, fun _ => ⟨c, en, rfl⟩, shown⟩
    rw [← lecturas_mostradas]
    exact h.atiende c q en
  · refine ⟨[], ?_, fun no => (no rfl).elim, shown⟩
    rw [← lecturas_mostradas, List.append_nil]
    exact h.nadie q fun c en => atiende ⟨c, en⟩

/-- Whatever Workers a query runs on, one after the other, its Query Control shows the READs that
    they report once each and in that order. -/
theorem lecturas_entregadas (config : Config) {es : List Evento}
    (h : Along (paso config) (fun s e => Previsto s e ∧ seguro s e = true) masterInicial es)
    (validos : ∀ e ∈ es, EventoValido e) (q : Int)
    (fit : ∀ m ∈ respuestasA config es q, CabePaquete m) :
    ∃ enCamino, Entregadas (correr config masterInicial es) q (leidas es q) enCamino := by
  have legibles : ∀ m ∈ respuestasA config es q, Legible m :=
    (correr_legible config es validos masterInicial_legible).2 q
  have relatado := relatado_correr h libro_inicial.enLinea relatado_inicial
  exact entregadas_of_relatado relatado legibles fit

def leyo (contenido : String) (pc : Nat) : Evento :=
  .reporta 0 (readResult { nombreFile := "f", tag := "t" } 0 contenido pc)

def enMarcha : List Evento :=
  [.conectaWorker 1, .despacho 0, .despacho 0, .conectaInterrupcion 0, .llega "larga" 5 0,
    .consulta 0, .consulta 0, .consulta 0] ++ List.replicate 6 (.despacho 0)

/-- Query 1, of priority 1, takes the Worker from query 0. -/
def llegaOtra : List Evento :=
  [.despacho 0, .llega "corta" 1 0, .consulta 1, .consulta 1, .consulta 1, .consulta 1]

/-- Query 0 reads before it leaves the Worker and after it is back on it. -/
def idaYVuelta : List Evento :=
  ((((enMarcha ++ leyo "ho" 1 :: llegaOtra) ++
    .reporta 0 (interruptEnvioAMaster false "larga" 0 1) :: List.replicate 10 (.despacho 0)) ++
    .reporta 0 (avisoEndQuery 1) :: List.replicate 8 (.despacho 0)) ++
    leyo "la" 2 :: [.despacho 0]) ++
    .reporta 0 (avisoEndQuery 0) :: List.replicate 2 (.despacho 0)

theorem lecturas_entregadas_ida_y_vuelta :
    ∃ socket, enviadas (respuestasA ⟨.prioridades, 0⟩ idaYVuelta 0) = some socket ∧
      procesarRespuestasMaster 4 socket = some ([lecturaRealizada "f" "t" "ho",
        lecturaRealizada "f" "t" "la",
        colorVerde ++ "## Query Finalizada - Query Finalizada Con Éxito" ++ colorVerde], []) := by
  have sent : ((correr ⟨.prioridades, 0⟩ masterInicial idaYVuelta).queries 0).respuestas =
      [⟨.queryResponseRead, [.texto "f", .texto "t", .texto "ho"]⟩,
        ⟨.queryResponseRead, [.texto "f", .texto "t", .texto "la"]⟩,
        ⟨.queryResponseEnd, [.texto "Finalizacion Hardcodeada"]⟩] := by decide
  have validos : ∀ e ∈ idaYVuelta, EventoValido e :=
    @of_decide_eq_true _ (List.decidableBAll _ idaYVuelta) rfl
  have tramo {es fs : List Evento} {m : Paquete}
      (antes : Along (paso ⟨.prioridades, 0⟩) (fun s e => Previsto s e ∧ seguro s e = true)
        masterInicial es)
      (informa : Informa (correr ⟨.prioridades, 0⟩ masterInicial es) 0 m)
      (sigue : Along (paso ⟨.prioridades, 0⟩) (fun s e => permitido s e = true ∧ seguro s e = true)
        (paso ⟨.prioridades, 0⟩ (correr ⟨.prioridades, 0⟩ masterInicial es) (.reporta 0 m)) fs) :
      Along (paso ⟨.prioridades, 0⟩) (fun s e => Previsto s e ∧ seguro s e = true) masterInicial
        (es ++ .reporta 0 m :: fs) :=
    along_append.mpr ⟨antes, ⟨.inr ⟨0, m, rfl, informa⟩, rfl⟩, along_permitido sigue⟩
  have toda : Along (paso ⟨.prioridades, 0⟩) (fun s e => Previsto s e ∧ seguro s e = true)
      masterInicial idaYVuelta := by
    refine tramo (tramo (tramo (tramo (tramo (along_permitido (by decide)) ?_ (by decide)) ?_
      (by decide)) ?_ (by decide)) ?_ (by decide)) ?_ (by decide)
    · exact ⟨_, [], 0, rfl, rfl, .inl ⟨_, _, 1, rfl⟩⟩
    · exact ⟨_, [], 0, rfl, rfl, .inr ⟨.interrupcion false "larga" 1, nofun⟩⟩
    · exact ⟨_, [], 1, rfl, rfl, .inr ⟨.fin, nofun⟩⟩
    · exact ⟨_, [], 0, rfl, rfl, .inl ⟨_, _, 2, rfl⟩⟩
    · exact ⟨_, [], 0, rfl, rfl, .inr ⟨.fin, nofun⟩⟩
  obtain ⟨_, entregadas⟩ :=
    lecturas_entregadas ⟨.prioridades, 0⟩ toda validos 0 (by rw [respuestasA, sent]; decide)
  obtain ⟨socket, out, shown⟩ := entregadas.pantalla
  refine ⟨socket, out, ?_⟩
  have screen := shown 4 (by rw [sent]; decide)
  rwa [sent] at screen

end QueryControlLecturas
