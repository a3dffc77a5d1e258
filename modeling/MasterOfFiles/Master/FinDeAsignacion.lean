import Mathlib.Data.List.Basic
import MasterOfFiles.Master.Liberadas
import MasterOfFiles.Master.Lugares
import MasterOfFiles.Worker.Informes

/-!
How the Master completes the end of an assignment, for each message a Worker can end it with
and with the other threads of the Master running in between, as long as none of them reads a
t_query that was freed.
-/
namespace MasterFinDeAsignacion
open Mensajes MasterEstado MasterManejo MasterHilos MasterMarcos MasterLugares MasterLiberadas
  WorkerInformes

variable (config : Config)

def respuestasDe (c : Nat) (q : Int) : Master → List Evento → List Paquete
  | _, [] => []
  | s, e :: es =>
    (if e = .despacho c then
      ((paso config s e).queries q).respuestas.drop (s.queries q).respuestas.length
      else []) ++ respuestasDe c q (paso config s e) es

def Reencola (c : Nat) (q : Int) (s : Master) (es : List Evento) : Prop :=
  ∃ antes despues, es = antes ++ .despacho c :: despues ∧
    (paso config (correr config s antes) (.despacho c)).colaQueries =
      (correr config s antes).colaQueries ++ [q]

/-- PC_UPDATE puts the query back; WORKER_QUERY_DESCONECTADO leaves it; any other message
    sends its Query Control one terminal response. -/
def Resuelta (c : Nat) (q : Int) (m : Paquete) (s : Master) (es : List Evento) : Prop :=
  match m.codigo with
  | .workerPcUpdate => Reencola config c q s es ∧ respuestasDe config c q s es = []
  | .workerQueryDesconectado => respuestasDe config c q s es = []
  | _ => ∃ r, esTerminal r = true ∧ respuestasDe config c q s es = [r]

/-- The thread reads fields that the message has, takes q out of query_en_worker and, in a part
    of the run in which nobody reads freed memory, resolves it and is back in
    comenzar_a_ejecutar. -/
structure Completada (s : Master) (c : Nat) (q : Int) (m : Paquete) (es : List Evento) :
    Prop where
  lee : manejo m ≠ none
  quita : q ∉ (paso config s (.despacho c)).queryEnWorker
  resuelve : ∃ pre, pre <+: es ∧ ∃ s', ejecutar config s (.despacho c :: pre) = some s' ∧
    (s'.conexiones c).despachador = .esperaToken (s.conexiones c).id ∧
    Resuelta config c q m s (.despacho c :: pre)

def primeros (c : Nat) : Nat → List Evento → List Evento
  | 0, _ => []
  | _ + 1, [] => []
  | k + 1, e :: es => e :: primeros c (if e = .despacho c then k else k + 1) es

def pasosDe (m : Paquete) : Nat :=
  match m.codigo with
  | .workerPcUpdate => 3
  | .workerQueryDesconectado => 0
  | _ => 1

variable {config} {s : Master} {c : Nat} {q : Int} {m : Paquete}

theorem respuestasDe_append (es fs : List Evento) :
    respuestasDe config c q s (es ++ fs) =
      respuestasDe config c q s es ++ respuestasDe config c q (correr config s es) fs := by
  induction es generalizing s with
  | nil => rfl
  | cons e es ih => simp [respuestasDe, ih]

theorem respuestasDe_otros {es : List Evento} (h : .despacho c ∉ es) :
    respuestasDe config c q s es = [] := by
  induction es generalizing s with
  | nil => rfl
  | cons e es ih =>
    rw [List.mem_cons, not_or] at h
    simp [respuestasDe, ih h.2, Ne.symm h.1]

@[simp] theorem primeros_zero (es : List Evento) : primeros c 0 es = [] := by
  cases es <;> rfl

theorem primeros_propio {otros resto : List Evento} (k : Nat) (fuera : .despacho c ∉ otros) :
    primeros c (k + 1) (otros ++ .despacho c :: resto) =
      otros ++ .despacho c :: primeros c k resto := by
  induction otros with
  | nil => simp [primeros]
  | cons e otros ih =>
    rw [List.mem_cons, not_or] at fuera
    simp [primeros, Ne.symm fuera.1, ih fuera.2]

theorem primeros_prefix (k : Nat) (es : List Evento) : primeros c k es <+: es := by
  induction es generalizing k with
  | nil => cases k <;> exact List.prefix_rfl
  | cons e es ih =>
    cases k with
    | zero => exact List.nil_prefix
    | succ k => exact List.cons_prefix_cons.mpr ⟨rfl, ih _⟩

theorem primeros_append {k : Nat} {es : List Evento} (enough : k ≤ es.count (.despacho c))
    (fs : List Evento) : primeros c k (es ++ fs) = primeros c k es := by
  induction es generalizing k with
  | nil =>
    obtain rfl : k = 0 := by simpa using enough
    cases fs <;> rfl
  | cons e es ih =>
    cases k with
    | zero => rfl
    | succ k =>
      rw [List.cons_append, primeros, primeros, ih]
      by_cases own : e = .despacho c
      · simp only [own, List.count_cons_self, ↓reduceIte] at enough ⊢
        omega
      · rwa [if_neg own, ← List.count_cons_of_ne own]

theorem conexion_vieja (inv : Ordenado s) (h : (s.conexiones c).despachador ≠ .ninguno) :
    c < s.cantidadConexiones := by
  by_contra fuera
  exact h (inv.nuevas c (by omega))

variable (config) in
theorem ordenado_correr (inv : Ordenado s) (es : List Evento) :
    Ordenado (correr config s es) :=
  GuardedRuns.invariant_run Ordenado (fun _ e inv => ordenado_paso config e inv) inv es

theorem despachador_otros (inv : Ordenado s) {es : List Evento} {d : Despachador}
    (h : (s.conexiones c).despachador = d) (viva : d ≠ .ninguno) (otros : .despacho c ∉ es) :
    ((correr config s es).conexiones c).despachador = d := by
  induction es generalizing s with
  | nil => exact h
  | cons e es ih =>
    rw [List.mem_cons, not_or] at otros
    apply ih (ordenado_paso config e inv) _ otros.2
    refine (congrArg Prod.snd (ficha_ajena (Ne.symm otros.1) ?_)).trans h
    rintro id rfl
    have := conexion_vieja inv (h ▸ viva)
    omega

variable (config) in
theorem espera_propio {es : List Evento} {k : Nat} (inv : Ordenado s) {d : Despachador}
    (h : (s.conexiones c).despachador = d) (viva : d ≠ .ninguno)
    (veces : k + 1 ≤ es.count (.despacho c)) :
    ∃ otros resto, es = otros ++ .despacho c :: resto ∧ .despacho c ∉ otros ∧
      k ≤ resto.count (.despacho c) ∧ Ordenado (correr config s otros) ∧
      ((correr config s otros).conexiones c).despachador = d := by
  have esta : Evento.despacho c ∈ es := List.count_pos_iff.mp (by omega)
  obtain ⟨otros, resto, rfl, fuera⟩ := List.eq_append_cons_of_mem esta
  refine ⟨otros, resto, rfl, fuera, ?_, ordenado_correr config inv otros,
    despachador_otros inv h viva fuera⟩
  rw [List.count_append, List.count_eq_zero.mpr fuera, List.count_cons_self] at veces
  omega

theorem sostenida_otros (inv : Ordenado s) {es : List Evento} {d : Despachador}
    (h : (s.conexiones c).despachador = d) (tiene : sostiene d = some q)
    (otros : .despacho c ∉ es) :
    ((correr config s es).queries q).idWorker = (s.queries q).idWorker := by
  have viva : d ≠ .ninguno := by
    rintro rfl
    contradiction
  induction es generalizing s with
  | nil => rfl
  | cons e es ih =>
    rw [List.mem_cons, not_or] at otros
    have aqui : (lugares s).At q (.held c) := (sostenida_eq h).trans tiene
    have ajena : ((paso config s e).queries q).idWorker = (s.queries q).idWorker := by
      apply And.left (crece_paso (inv.llegadas q (inv.puestas q _ aqui).1) _)
      rintro o idWorker rfl corre
      have alli : (lugares s).At q (.held o) := sostenida_eq corre
      cases inv.unico.one q _ _ aqui alli
      exact otros.1 rfl
    rw [correr_cons, ih (ordenado_paso config e inv) _ otros.2, ajena]
    have fuera : .despacho c ∉ [e] := by simpa using otros.1
    exact despachador_otros inv h viva fuera

theorem id_otros (inv : Ordenado s) {es : List Evento}
    (vieja : c < s.cantidadConexiones) :
    ((correr config s es).conexiones c).id = (s.conexiones c).id := by
  induction es generalizing s with
  | nil => rfl
  | cons e es ih =>
    have crece := (llegadas_paso config e inv).2.2
    rw [correr_cons, ih (ordenado_paso config e inv) (by omega)]
    by_cases propio : e = .despacho c
    · rw [propio]
      exact despachar_avanza.id
    · refine congrArg Prod.fst (ficha_ajena propio ?_)
      rintro id rfl
      omega

/-- The query runs on the Worker of the connection, whose thread is about to read m. -/
structure Corre (s : Master) (c : Nat) (q : Int) (m : Paquete) : Prop where
  atiende : (s.conexiones c).despachador = .atendiendo q
  enWorker : q ∈ s.queryEnWorker
  suyo : (s.queries q).idWorker = (s.conexiones c).id
  llega : ∃ resto, (s.conexiones c).entrada = m :: resto
  abierto : (s.conexiones c).socketCerrado = false

variable (config) in
theorem primer_paso (h : Corre s c q m) : ∃ f : Conexion → Conexion,
    (∀ con, ficha (f con) = ficha con) ∧
    paso config s (.despacho c) = manejar (s.enConexion c f) c q (manejo m) := by
  obtain ⟨resto, llega⟩ := h.llega
  refine ⟨fun con => { con with entrada := resto }, fun _ => rfl, ?_⟩
  simp [paso, despachar, h.atiende, atenderWorker, Conexion.terminada, h.abierto, llega]

def pendientes : Despachador → Nat
  | .completando _ _ | .avisando _ => 1
  | .reencolando _ _ => 3
  | .encolando _ => 2
  | _ => 0

variable (config) in
theorem paso_completando {r : Paquete} (h : (s.conexiones c).despachador = .completando q r) :
    paso config s (.despacho c) =
      (s.enQuery q fun t => (t.conEstado .exit).responder r).pasaA c
        (.esperaToken (s.queries q).idWorker) := by
  simp only [paso, despachar, h]

variable (config) in
theorem paso_reencolando {pc : Int} (h : (s.conexiones c).despachador = .reencolando q pc) :
    paso config s (.despacho c) =
      (s.enQuery q fun t => { t.conEstado .ready with programCounter := pc }).pasaA c
        (.encolando q) := by
  simp only [paso, despachar, h]

variable (config) in
theorem paso_encolando (h : (s.conexiones c).despachador = .encolando q) :
    paso config s (.despacho c) =
      { s with colaQueries := s.colaQueries ++ [q] }.pasaA c (.avisando q) := by
  simp only [paso, despachar, h]

variable (config) in
theorem paso_avisando (h : (s.conexiones c).despachador = .avisando q) :
    ∃ f : Query → Query, (∀ t, (f t).respuestas = t.respuestas) ∧
      paso config s (.despacho c) =
        ({ s with semQueries := s.semQueries + 1 }.enQuery q f).pasaA c
          (.esperaToken (s.conexiones c).id) := by
  simp only [paso, despachar, h]
  refine ⟨_, fun t => ?_, rfl⟩
  split <;> rfl

theorem pendientes_paso (config : Config) (s : Master) (c : Nat) :
    pendientes (s.conexiones c).despachador ≤
      pendientes ((paso config s (.despacho c)).conexiones c).despachador + 1 := by
  cases h : (s.conexiones c).despachador with
  | reencolando u pc =>
    rw [paso_reencolando config h]
    simp [Master.pasaA, Master.enConexion, pendientes]
  | encolando u =>
    rw [paso_encolando config h]
    simp [Master.pasaA, Master.enConexion, pendientes]
  | _ => simp [pendientes]

theorem respuestasDe_callada (h : ((paso config s (.despacho c)).queries q).respuestas =
    (s.queries q).respuestas) : respuestasDe config c q s [.despacho c] = [] := by
  simp [respuestasDe, h]

theorem respuestasDe_salta {otros es : List Evento} (fuera : .despacho c ∉ otros)
    (h : ((paso config s (.despacho c)).queries q).respuestas = (s.queries q).respuestas) :
    respuestasDe config c q s (.despacho c :: (otros ++ es)) =
      respuestasDe config c q (correr config (paso config s (.despacho c)) otros) es := by
  simp [respuestasDe, respuestasDe_append, respuestasDe_otros fuera, h]

structure Encaminada (config : Config) (s : Master) (c : Nat) (q : Int) (m : Paquete)
    (es : List Evento) : Prop where
  lee : manejo m ≠ none
  quita : q ∉ (paso config s (.despacho c)).queryEnWorker
  quedan : pendientes ((paso config s (.despacho c)).conexiones c).despachador = pasosDe m
  vuelve : ((correr config s (.despacho c :: primeros c (pasosDe m) es)).conexiones c).despachador =
    .esperaToken (s.conexiones c).id
  resuelve : Resuelta config c q m s (.despacho c :: primeros c (pasosDe m) es)

theorem encaminada_terminal (inv : Ordenado s) (h : Corre s c q m) {r : Paquete}
    (terminal : esTerminal r = true) (lee : manejo m = some (.completar q r))
    (noPc : m.codigo ≠ .workerPcUpdate) (noDes : m.codigo ≠ .workerQueryDesconectado)
    {es : List Evento} (veces : 3 ≤ es.count (.despacho c)) : Encaminada config s c q m es := by
  obtain ⟨f, mismos, primero⟩ := primer_paso config h
  have suelta : paso config s (.despacho c) =
      { s.enConexion c f with queryEnWorker := s.queryEnWorker.erase q }.pasaA c
        (.completando q r) := by
    rw [primero, lee]
    simp only [manejar]
    exact if_pos h.enWorker
  have inv' := ordenado_paso config (.despacho c) inv
  have espera : ((paso config s (.despacho c)).conexiones c).despachador = .completando q r := by
    rw [suelta]
    simp [Master.pasaA, Master.enConexion]
  have uno : pasosDe m = 1 := by
    unfold pasosDe
    split
    · next pcUpdate => exact (noPc pcUpdate).elim
    · next desconectado => exact (noDes desconectado).elim
    · rfl
  obtain ⟨otros, resto, rfl, fuera, _, _, sigue⟩ := espera_propio config (k := 2) inv' espera
    (by simp) veces
  have ultimo := paso_completando config sigue
  have parte : primeros c 1 (otros ++ .despacho c :: resto) = otros ++ [.despacho c] := by
    rw [primeros_propio 0 fuera, primeros_zero]
  constructor
  · simp [lee]
  · rw [suelta]
    exact inv.unico.running.not_mem_erase
  · rw [espera, uno]
    rfl
  · have suyo : ((correr config (paso config s (.despacho c)) otros).queries q).idWorker =
        (s.conexiones c).id := by
      rw [sostenida_otros inv' espera rfl fuera, suelta]
      exact h.suyo
    rw [uno, parte, correr_cons, correr_append, correr_cons, correr_nil, ultimo, suyo]
    simp [Master.pasaA, Master.enConexion]
  · have todas : respuestasDe config c q s (.despacho c :: (otros ++ [.despacho c])) = [r] := by
      rw [respuestasDe_salta fuera (by rw [suelta]; rfl)]
      simp [respuestasDe, ultimo, Master.pasaA, Master.enConexion, Master.enQuery,
        Query.responder, Query.conEstado]
    rw [uno, parte]
    unfold Resuelta
    split
    · next pcUpdate => exact (noPc pcUpdate).elim
    · next desconectado => exact (noDes desconectado).elim
    · exact ⟨r, terminal, todas⟩

theorem encaminada_desconectado (inv : Ordenado s) (h : Corre s c q m)
    (lee : manejo m = some (.desconectada q)) (codigo : m.codigo = .workerQueryDesconectado)
    (es : List Evento) : Encaminada config s c q m es := by
  obtain ⟨f, mismos, primero⟩ := primer_paso config h
  have suelta : paso config s (.despacho c) =
      ({ s.enConexion c f with queryEnWorker := s.queryEnWorker.erase q }.enQuery q
        (Query.conEstado .exit)).pasaA c (.esperaToken ((s.enConexion c f).conexiones c).id) := by
    rw [primero, lee]
    simp only [manejar]
    exact if_pos h.enWorker
  have cero : pasosDe m = 0 := by simp [pasosDe, codigo]
  constructor
  · simp [lee]
  · rw [suelta]
    exact inv.unico.running.not_mem_erase
  · rw [suelta, cero]
    simp [Master.pasaA, Master.enConexion, pendientes]
  · have mismo : ((s.enConexion c f).conexiones c).id = (s.conexiones c).id :=
      proy_enConexion Conexion.id c c fun con => congrArg Prod.fst (mismos con)
    rw [cero, primeros_zero, correr_cons, correr_nil, suelta, mismo]
    simp [Master.pasaA, Master.enConexion, Master.enQuery]
  · rw [cero, primeros_zero]
    simp only [Resuelta, codigo]
    apply respuestasDe_callada
    rw [suelta]
    simp [Master.pasaA, Master.enConexion, Master.enQuery, Query.conEstado]

theorem reencola_append (xs : List Evento) {ys : List Evento}
    (h : Reencola config c q (correr config s xs) ys) :
    Reencola config c q s (xs ++ ys) := by
  obtain ⟨antes, despues, rfl, encola⟩ := h
  refine ⟨xs ++ antes, despues, by simp, ?_⟩
  rwa [correr_append]

theorem respuestasDe_otros_propio {otros es : List Evento} (fuera : .despacho c ∉ otros)
    (h : ((paso config (correr config s otros) (.despacho c)).queries q).respuestas =
      ((correr config s otros).queries q).respuestas) :
    respuestasDe config c q s (otros ++ .despacho c :: es) =
      respuestasDe config c q (paso config (correr config s otros) (.despacho c)) es := by
  have vacia : Evento.despacho c ∉ [] := List.not_mem_nil
  rw [respuestasDe_append, respuestasDe_otros fuera, List.nil_append]
  exact respuestasDe_salta vacia h

def VuelveCallada (config : Config) (s : Master) (c : Nat) (q : Int) (es : List Evento) : Prop :=
  ((correr config s es).conexiones c).despachador = .esperaToken (s.conexiones c).id ∧
    respuestasDe config c q s es = []

theorem vuelve_un_paso (inv : Ordenado s) (vieja : c < s.cantidadConexiones)
    {otros es : List Evento} (fuera : .despacho c ∉ otros)
    (callada : ((paso config (correr config s otros) (.despacho c)).queries q).respuestas =
      ((correr config s otros).queries q).respuestas)
    (sigue : VuelveCallada config (paso config (correr config s otros) (.despacho c)) c q es) :
    VuelveCallada config s c q (otros ++ .despacho c :: es) := by
  have mismo : ((paso config (correr config s otros) (.despacho c)).conexiones c).id =
      (s.conexiones c).id :=
    despachar_avanza.id.trans (id_otros inv vieja)
  constructor
  · rw [correr_append, correr_cons, sigue.1, mismo]
  · rw [respuestasDe_otros_propio fuera callada]
    exact sigue.2

theorem desde_avisando (config : Config) (inv : Ordenado s)
    (en : (s.conexiones c).despachador = .avisando q)
    {es : List Evento} (veces : 1 ≤ es.count (.despacho c)) :
    VuelveCallada config s c q (primeros c 1 es) := by
  obtain ⟨otros, resto, rfl, fuera, _, _, sigue⟩ := espera_propio config (k := 0) inv en (by simp)
    veces
  obtain ⟨f, callada, ultimo⟩ := paso_avisando config sigue
  rw [primeros_propio 0 fuera, primeros_zero]
  apply vuelve_un_paso inv (conexion_vieja inv (by simp [en])) fuera
  · simp [ultimo, Master.pasaA, Master.enConexion, Master.enQuery, callada]
  · constructor
    · rw [correr_nil, ultimo]
      simp [Master.pasaA, Master.enConexion, Master.enQuery]
    · rfl

theorem desde_encolando (config : Config) (inv : Ordenado s)
    (en : (s.conexiones c).despachador = .encolando q)
    {es : List Evento} (veces : 2 ≤ es.count (.despacho c)) :
    VuelveCallada config s c q (primeros c 2 es) ∧ Reencola config c q s (primeros c 2 es) := by
  obtain ⟨otros, resto, rfl, fuera, quedan, inv', sigue⟩ := espera_propio config (k := 1) inv en
    (by simp) veces
  have ultimo := paso_encolando config sigue
  have vuelve := desde_avisando config (q := q) (ordenado_paso config (.despacho c) inv')
    (by rw [ultimo]; simp [Master.pasaA, Master.enConexion]) quedan
  rw [primeros_propio 1 fuera]
  refine ⟨?_, otros, primeros c 1 resto, rfl, ?_⟩
  · apply vuelve_un_paso inv (conexion_vieja inv (by simp [en])) fuera _ vuelve
    rw [ultimo]
    rfl
  · rw [ultimo]
    rfl

theorem desde_reencolando (config : Config) {pc : Int} (inv : Ordenado s)
    (en : (s.conexiones c).despachador = .reencolando q pc)
    {es : List Evento} (veces : 3 ≤ es.count (.despacho c)) :
    VuelveCallada config s c q (primeros c 3 es) ∧ Reencola config c q s (primeros c 3 es) := by
  obtain ⟨otros, resto, rfl, fuera, quedan, inv', sigue⟩ := espera_propio config (k := 2) inv en
    (by simp) veces
  have ultimo := paso_reencolando config sigue
  obtain ⟨vuelve, reencola⟩ := desde_encolando config (q := q)
    (ordenado_paso config (.despacho c) inv')
    (by rw [ultimo]; simp [Master.pasaA, Master.enConexion]) quedan
  rw [primeros_propio 2 fuera]
  constructor
  · apply vuelve_un_paso inv (conexion_vieja inv (by simp [en])) fuera _ vuelve
    rw [ultimo]
    simp [Master.pasaA, Master.enConexion, Master.enQuery, Query.conEstado]
  · have aqui : Reencola config c q (correr config s (otros ++ [.despacho c]))
        (primeros c 2 resto) := by
      rwa [correr_append]
    simpa using reencola_append _ aqui

theorem encaminada_pcUpdate (inv : Ordenado s) (h : Corre s c q m) {pc : Int}
    (lee : manejo m = some (.reencolar q pc)) (codigo : m.codigo = .workerPcUpdate)
    {es : List Evento} (veces : 3 ≤ es.count (.despacho c)) : Encaminada config s c q m es := by
  obtain ⟨f, mismos, primero⟩ := primer_paso config h
  have suelta : paso config s (.despacho c) =
      { s.enConexion c f with queryEnWorker := s.queryEnWorker.erase q }.pasaA c
        (.reencolando q pc) := by
    rw [primero, lee]
    simp only [manejar]
    exact if_pos h.enWorker
  have callada : ((paso config s (.despacho c)).queries q).respuestas =
      (s.queries q).respuestas := by
    rw [suelta]
    rfl
  have en : ((paso config s (.despacho c)).conexiones c).despachador = .reencolando q pc := by
    rw [suelta]
    simp [Master.pasaA, Master.enConexion]
  have tres : pasosDe m = 3 := by simp [pasosDe, codigo]
  obtain ⟨vuelve, reencola⟩ :=
    desde_reencolando config (ordenado_paso config (.despacho c) inv) en veces
  have entero := vuelve_un_paso inv (conexion_vieja inv (by simp [h.atiende]))
    (List.not_mem_nil (a := Evento.despacho c)) callada vuelve
  constructor
  · simp [lee]
  · rw [suelta]
    exact inv.unico.running.not_mem_erase
  · rw [en, tres]
    rfl
  · rw [tres]
    exact entero.1
  · rw [tres]
    simp only [Resuelta, codigo]
    exact ⟨reencola_append [.despacho c] reencola, entero.2⟩

theorem noEncontrada_queda (h : Corre s c q m) (lee : manejo m = some .desconocida)
    (es : List Evento) : ¬ Completada config s c q m es := by
  intro completa
  obtain ⟨f, _, primero⟩ := primer_paso config h
  apply completa.quita
  rw [primero, lee]
  exact h.enWorker

theorem pendientes_correr (config : Config) (inv : Ordenado s) (vieja : c < s.cantidadConexiones)
    (es : List Evento) : pendientes (s.conexiones c).despachador ≤
      pendientes ((correr config s es).conexiones c).despachador + es.count (.despacho c) := by
  induction es generalizing s with
  | nil => exact Nat.le_add_right _ _
  | cons e es ih =>
    have inv' := ordenado_paso config e inv
    have crece := (llegadas_paso config e inv).2.2
    have resto := ih inv' (by omega)
    rw [correr_cons]
    by_cases propio : e = .despacho c
    · subst propio
      have uno := pendientes_paso config s c
      rw [List.count_cons_self]
      omega
    · have nueva : ∀ id, e = .conectaWorker id → c ≠ s.cantidadConexiones := by
        intro _ _
        omega
      have igual : ((paso config s e).conexiones c).despachador = (s.conexiones c).despachador :=
        congrArg Prod.snd (ficha_ajena propio nueva)
      rw [List.count_cons_of_ne propio, ← igual]
      exact resto

theorem completada_iff (inv : Ordenado s) (h : Corre s c q m) {es : List Evento}
    (en : Encaminada config s c q m es) : Completada config s c q m es ↔
      (ejecutar config s (.despacho c :: primeros c (pasosDe m) es)).isSome := by
  constructor
  · intro completa
    obtain ⟨pre, part, s', run, back, _⟩ := completa.resuelve
    have todos : pasosDe m ≤ pre.count (.despacho c) := by
      have vieja : c < s.cantidadConexiones := conexion_vieja inv (by simp [h.atiende])
      have crece := (llegadas_paso config (.despacho c) inv).2.2
      have left := pendientes_correr config (ordenado_paso config (.despacho c) inv)
        (Nat.lt_of_lt_of_le vieja crece) pre
      rw [← correr_of_ejecutar run, correr_cons] at back
      rw [en.quedan, back] at left
      simpa [pendientes] using left
    have within : primeros c (pasosDe m) es <+: pre := by
      obtain ⟨resto, rfl⟩ := part
      rw [primeros_append todos]
      exact primeros_prefix _ _
    rw [ejecutar_del_principio (List.cons_prefix_cons.mpr ⟨rfl, within⟩) (by rw [run]; rfl)]
    rfl
  · intro limpia
    exact ⟨en.lee, en.quita, _, primeros_prefix _ _, _,
      ejecutar_del_principio List.prefix_rfl limpia, en.vuelve, en.resuelve⟩

/-- Worker 1 connects, a query comes and is sent to it. -/
def queryEnMarcha : List Evento :=
  [.conectaWorker 1, .despacho 0, .despacho 0, .conectaInterrupcion 0, .llega "q" 0 0,
    .consulta 0, .consulta 0, .consulta 0] ++ List.replicate 6 (.despacho 0)

def queryTerminada : List Evento := queryEnMarcha ++ [.reporta 0 (avisoEndQuery 0)]

def siguen : List Evento :=
  [.llega "r" 0 0, .despacho 0, .llega "t" 0 0, .despacho 0, .despacho 0]

/-- The Query Control goes while its query runs, and atender_desconexion_query frees the query
    before the Worker's WORKER_QUERY_DESCONECTADO is read. -/
example : ejecutar ⟨.fifo, 0⟩ (correr ⟨.fifo, 0⟩ masterInicial (queryEnMarcha ++ [.cierraQuery 0] ++
    List.replicate 6 (.desconexion 0) ++ [.reporta 0 (interruptEnvioAMaster true "q" 0 0)]))
    [.despacho 0] = none :=
  rfl

end MasterFinDeAsignacion
