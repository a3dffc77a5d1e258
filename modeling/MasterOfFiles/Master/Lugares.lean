import MasterOfFiles.Lib.Custody
import MasterOfFiles.Lib.GuardedRuns
import MasterOfFiles.Master.Marcos

/-!
Where each query is: in cola_queries, in query_en_worker or held by a dispatcher. Every step
of every thread moves at most one query, so none is ever in two places.
-/
namespace MasterLugares
open Mensajes MasterEstado MasterManejo MasterHilos MasterMarcos Custody GuardedRuns

/-- The query a dispatcher has taken out of one list and not put in the other one yet. -/
def sostiene : Despachador → Option Int
  | .sosteniendo _ q => some q
  | .corriendo _ q => some q
  | .completando q _ => some q
  | .reencolando q _ => some q
  | .encolando q => some q
  | _ => none

def lugares (s : Master) : Places Int Nat :=
  ⟨s.colaQueries, s.queryEnWorker, fun c => sostiene (s.conexiones c).despachador⟩

structure Ordenado (s : Master) : Prop where
  unico : (lugares s).Unique
  puestas : ∀ q l, (lugares s).At q l → Puesta (s.llegadas q)
  llegadas : ∀ q, s.llegadas q ≠ .ninguna → q < s.idQuery
  nuevas : ∀ c, s.cantidadConexiones ≤ c → (s.conexiones c).despachador = .ninguno

inductive Causa (s : Master) : Evento → Int → Option (Place Nat) → Prop
  | llega (q : Int) (nueva : s.llegadas q = .creada) : Causa s (.consulta q) q (some .queue)
  | pasa (c : Nat) (q : Int) (l l' : Place Nat) (estaba : (lugares s).At q l) :
      Causa s (.despacho c) q (some l')
  | responde (c : Nat) (q : Int) (respuesta : Paquete)
      (en : (s.conexiones c).despachador = .completando q respuesta) : Causa s (.despacho c) q none
  | desconectada (c : Nat) (q t : Int) (m : Paquete)
      (en : (s.conexiones c).despachador = .atendiendo t) (llego : m ∈ (s.conexiones c).entrada)
      (lee : manejo m = some (.desconectada q)) : Causa s (.despacho c) q none
  | retirada (q : Int) (evaluada : s.vigias q = .evaluada) : Causa s (.desconexion q) q none

def Movimiento (s : Master) (e : Evento) (s' : Master) : Prop :=
  lugares s' = lugares s ∨
    ∃ q target, Moved (lugares s) (lugares s') q target ∧ Causa s e q target

variable {config : Config} {s s' : Master} {c : Nat} {q : Int}

theorem lugares_enConexion (s : Master) (c : Nat) (f : Conexion → Conexion) :
    lugares (s.enConexion c f) =
      { lugares s with
        held := Function.update (lugares s).held c
          (sostiene (f (s.conexiones c)).despachador) } := by
  simp only [lugares, Master.enConexion, Places.mk.injEq, true_and]
  funext c'
  by_cases h : c' = c
  · subst h
    simp
  · simp [h]

theorem lugares_enConexion_igual {f : Conexion → Conexion}
    (same : sostiene (f (s.conexiones c)).despachador = (lugares s).held c) :
    lugares (s.enConexion c f) = lugares s := by
  rw [lugares_enConexion, same]
  exact congrArg (Places.mk _ _) (Function.update_eq_self c (lugares s).held)

@[simp] theorem lugares_enQuery (s : Master) (q : Int) (f : Query → Query) :
    lugares (s.enQuery q f) = lugares s := rfl

theorem lugares_pasaA (s : Master) (c : Nat) (d : Despachador) :
    lugares (s.pasaA c d) =
      { lugares s with held := Function.update (lugares s).held c (sostiene d) } :=
  lugares_enConexion s c _

theorem lugares_pasaA_igual {d : Despachador} (same : sostiene d = (lugares s).held c) :
    lugares (s.pasaA c d) = lugares s :=
  lugares_enConexion_igual same

@[simp] theorem lugares_vigilantePasaA (s : Master) (c : Nat) (v : Vigilante) :
    lugares (s.vigilantePasaA c v) = lugares s :=
  lugares_enConexion_igual rfl

theorem sostenida_eq {d : Despachador} (h : (s.conexiones c).despachador = d) :
    (lugares s).held c = sostiene d := by
  rw [← h]
  rfl

theorem mem_of_tomarDeCola (h : tomarDeCola config s = some q) : q ∈ s.colaQueries := by
  have menor : ∀ (t : Int) (qs : List Int),
      qs.foldl (fun minQuery actual =>
        if (s.queries actual).prioridad < (s.queries minQuery).prioridad then actual
        else minQuery) t ∈ t :: qs := by
    intro t qs
    induction qs generalizing t with
    | nil => simp
    | cons u us ih =>
      rw [List.foldl_cons]
      split
      · exact List.mem_cons_of_mem _ (ih u)
      · rcases List.mem_cons.mp (ih t) with first | later
        · exact List.mem_cons.mpr (.inl first)
        · exact List.mem_cons_of_mem _ (List.mem_cons_of_mem _ later)
  unfold tomarDeCola at h
  split at h
  · exact List.mem_of_mem_head? h
  · cases hc : s.colaQueries with
    | nil => simp [hc, obtenerMenorPrioridad] at h
    | cons t qs =>
      simp only [hc, obtenerMenorPrioridad, Option.some.injEq] at h
      rw [← h]
      exact menor t qs

theorem quieto {e : Evento} (h : lugares s' = lugares s) : Movimiento s e s' := .inl h

theorem toma_movimiento {idWorker : Int} (unico : (lugares s).Unique)
    (h : (s.conexiones c).despachador = .validado idWorker) (hq : q ∈ s.colaQueries) :
    Movimiento s (.despacho c)
      ({ s with colaQueries := s.colaQueries.erase q }.pasaA c (.sosteniendo idWorker q)) := by
  have out := moved_withdraw unico hq
  refine .inr ⟨q, some (.held c), ?_, .pasa c q .queue _ hq⟩
  rw [lugares_pasaA]
  exact out.trans (moved_hold (nowhere_of_moved out) (sostenida_eq h))

theorem agrega_movimiento {idWorker : Int} (unico : (lugares s).Unique)
    (h : (s.conexiones c).despachador = .corriendo idWorker q) :
    Movimiento s (.despacho c)
      (({ s with queryEnWorker := s.queryEnWorker ++ [q] }.enQuery q fun t =>
        { t with idWorker := idWorker }).pasaA c (.agregada idWorker q)) := by
  have out := moved_release unico (sostenida_eq h)
  refine .inr ⟨q, some .running, ?_, .pasa c q (.held c) _ (sostenida_eq h)⟩
  rw [lugares_pasaA]
  exact out.trans (moved_begin (nowhere_of_moved out))

theorem encola_movimiento (unico : (lugares s).Unique)
    (h : (s.conexiones c).despachador = .encolando q) :
    Movimiento s (.despacho c)
      ({ s with colaQueries := s.colaQueries ++ [q] }.pasaA c (.avisando q)) := by
  have out := moved_release unico (sostenida_eq h)
  refine .inr ⟨q, some .queue, ?_, .pasa c q (.held c) _ (sostenida_eq h)⟩
  rw [lugares_pasaA]
  exact out.trans (moved_enqueue (nowhere_of_moved out))

theorem responde_movimiento {respuesta : Paquete} {id : Int} {f : Query → Query}
    (unico : (lugares s).Unique)
    (h : (s.conexiones c).despachador = .completando q respuesta) :
    Movimiento s (.despacho c) ((s.enQuery q f).pasaA c (.esperaToken id)) := by
  refine .inr ⟨q, none, ?_, .responde c q respuesta h⟩
  rw [lugares_pasaA]
  exact moved_release unico (sostenida_eq h)

theorem quita_moved {d : Despachador} (unico : (lugares s).Unique)
    (libre : (lugares s).held c = none) (hq : q ∈ s.queryEnWorker) (tiene : sostiene d = some q) :
    Moved (lugares s)
      (lugares ({ s with queryEnWorker := s.queryEnWorker.erase q }.pasaA c d)) q
      (some (.held c)) := by
  have out := moved_stop unico hq
  rw [lugares_pasaA, tiene]
  exact out.trans (moved_hold (nowhere_of_moved out) libre)

theorem desconectada_moved {t id : Int} (unico : (lugares s).Unique)
    (h : (s.conexiones c).despachador = .atendiendo t) (hq : q ∈ s.queryEnWorker) :
    Moved (lugares s)
      (lugares (({ s with queryEnWorker := s.queryEnWorker.erase q }.enQuery q
        (Query.conEstado .exit)).pasaA c (.esperaToken id))) q none := by
  have same : lugares (({ s with queryEnWorker := s.queryEnWorker.erase q }.enQuery q
      (Query.conEstado .exit)).pasaA c (.esperaToken id)) =
      lugares { s with queryEnWorker := s.queryEnWorker.erase q } :=
    lugares_pasaA_igual (sostenida_eq h).symm
  rw [same]
  exact moved_stop unico hq

theorem manejar_lugares (unico : (lugares s).Unique)
    (h : (s.conexiones c).despachador = .atendiendo q) (lee : Option Manejo) :
    lugares (manejar s c q lee) = lugares s ∨
      ∃ t target, Moved (lugares s) (lugares (manejar s c q lee)) t target ∧
        t ∈ s.queryEnWorker ∧ (target = none → lee = some (.desconectada t)) := by
  have libre : (lugares s).held c = none := sostenida_eq h
  have pasa {d : Despachador} (nada : sostiene d = none) : lugares (s.pasaA c d) = lugares s :=
    lugares_pasaA_igual (nada.trans libre.symm)
  cases lee with
  | none => exact .inl (pasa rfl)
  | some manejo =>
    cases manejo with
    | desconocida => exact .inl (pasa rfl)
    | lectura id programCounter respuesta =>
      simp only [manejar]
      split
      · exact .inl rfl
      · exact .inl (pasa rfl)
    | completar id respuesta =>
      simp only [manejar]
      split
      · next hq => exact .inr ⟨id, _, quita_moved unico libre hq rfl, hq, by simp⟩
      · exact .inl (pasa rfl)
    | reencolar id nuevoPC =>
      simp only [manejar]
      split
      · next hq => exact .inr ⟨id, _, quita_moved unico libre hq rfl, hq, by simp⟩
      · exact .inl (pasa rfl)
    | desconectada id =>
      simp only [manejar]
      split
      · next hq => exact .inr ⟨id, none, desconectada_moved unico h hq, hq, fun _ => rfl⟩
      · exact .inl (pasa rfl)

theorem workerSeFue_lugares (h : (s.conexiones c).despachador = .atendiendo q) :
    lugares (workerSeFue s c) = lugares s := by
  unfold workerSeFue
  split
  · next o _ =>
    have same : lugares (s.enConexion o fun w =>
        { w with desconexionWorker := w.desconexionWorker + 1 }) = lugares s :=
      lugares_enConexion_igual rfl
    refine (lugares_pasaA_igual ?_).trans same
    rw [same]
    exact (sostenida_eq h).symm
  · exact lugares_pasaA_igual (sostenida_eq h).symm

theorem atenderWorker_movimiento (unico : (lugares s).Unique)
    (h : (s.conexiones c).despachador = .atendiendo q) :
    Movimiento s (.despacho c) (atenderWorker s c q) := by
  unfold atenderWorker
  dsimp only
  split
  · exact quieto (workerSeFue_lugares h)
  · split
    · exact quieto rfl
    · next m resto hm =>
      have same : lugares (s.enConexion c fun con => { con with entrada := resto }) = lugares s :=
        lugares_enConexion_igual rfl
      have sigue : ((s.enConexion c fun con =>
          { con with entrada := resto }).conexiones c).despachador = .atendiendo q := by
        simp [Master.enConexion, h]
      rcases manejar_lugares (same ▸ unico) sigue (manejo m) with igual | ⟨t, target, mv, ht, lee⟩
      · exact quieto (igual.trans same)
      · refine .inr ⟨t, target, same ▸ mv, ?_⟩
        cases target with
        | none => exact .desconectada c t q m h (by simp [hm]) (lee rfl)
        | some l => exact .pasa c t .running l ht

theorem despachar_movimiento (unico : (lugares s).Unique) :
    Movimiento s (.despacho c) (despachar config s c) := by
  have igual {d d' : Despachador} {s' : Master} (h : (s.conexiones c).despachador = d)
      (mismos : lugares s' = lugares s) (nada : sostiene d = sostiene d') :
      Movimiento s (.despacho c) (s'.pasaA c d') := by
    refine quieto ((lugares_pasaA_igual ?_).trans mismos)
    rw [mismos, ← nada]
    exact (sostenida_eq h).symm
  unfold despachar
  cases h : (s.conexiones c).despachador with
  | conectada | contada => exact igual h rfl rfl
  | esperaToken idWorker =>
    dsimp only
    split
    · exact quieto rfl
    · exact igual h rfl rfl
  | conToken idWorker =>
    dsimp only
    split
    · exact igual h rfl rfl
    · split <;> exact igual h rfl rfl
  | invalido worker =>
    cases worker with
    | none => exact igual h rfl rfl
    | some o => exact igual h (lugares_enConexion_igual rfl) rfl
  | validado idWorker =>
    dsimp only
    split
    · exact igual h rfl rfl
    · next q hq => exact toma_movimiento unico h (mem_of_tomarDeCola hq)
  | sosteniendo idWorker q => exact igual h rfl rfl
  | corriendo idWorker q => exact agrega_movimiento unico h
  | agregada idWorker q => exact quieto (lugares_enConexion_igual (sostenida_eq h).symm)
  | atendiendo q => exact atenderWorker_movimiento unico h
  | completando q respuesta => exact responde_movimiento unico h
  | reencolando q nuevoPC => exact igual h rfl rfl
  | encolando q => exact encola_movimiento unico h
  | avisando q => exact igual h rfl rfl
  | ninguno | abandonada q | roto q | fin => exact quieto rfl

theorem vigilar_lugares : lugares (vigilar s c) = lugares s := by
  unfold vigilar
  cases (s.conexiones c).vigilante with
  | vigilando o =>
    dsimp only
    split
    · rw [lugares_vigilantePasaA]
      exact lugares_enConexion_igual rfl
    · rfl
  | descontado o =>
    dsimp only
    split <;> simp
  | esperando o =>
    dsimp only
    split
    · rfl
    · rw [lugares_vigilantePasaA]
      exact lugares_enConexion_igual rfl
  | marcado o | avisando o q | liberado o => exact lugares_vigilantePasaA _ c _
  | ninguno | terminado => rfl

theorem atenderWorkerInterrupt_lugares : lugares (atenderWorkerInterrupt s c) = lugares s := by
  unfold atenderWorkerInterrupt
  split
  · rw [lugares_vigilantePasaA]
    exact lugares_enConexion_igual rfl
  · rfl

theorem lugares_of_marco (same : marco s' = marco s) (cola : s'.colaQueries = s.colaQueries) :
    lugares s' = lugares s := by
  have held : (lugares s').held = (lugares s).held :=
    funext fun c => proy_of_marco (fun con => sostiene con.despachador) same c fun _ => rfl
  have enWorker : s'.queryEnWorker = s.queryEnWorker := by
    simp only [marco, Prod.mk.injEq] at same
    exact same.2.2.2.1
  simp only [lugares, Places.mk.injEq]
  exact ⟨cola, enWorker, held⟩

theorem realizarDesalojo_lugares (s : Master) (d : Desalojo) (codOp : OpCode) :
    lugares (realizarDesalojo s d codOp) = lugares s := by
  refine lugares_of_marco (realizarDesalojo_marco s d codOp) ?_
  unfold realizarDesalojo
  split
  · rfl
  · split <;> rfl

theorem atenderTimerQuery_lugares : lugares (atenderTimerQuery config s q) = lugares s := by
  unfold atenderTimerQuery
  dsimp only
  split
  · split
    · rfl
    · split
      · rfl
      · split <;> rfl
  · split <;> rfl
  · exact realizarDesalojo_lugares s _ _
  · split
    · rfl
    · split <;> rfl
  · split <;> rfl
  all_goals rfl

theorem atenderQuery_movimiento (inv : Ordenado s) :
    Movimiento s (.consulta q) (atenderQuery config s q) := by
  unfold atenderQuery
  dsimp only
  cases h : s.llegadas q with
  | creada =>
    refine .inr ⟨q, some .queue, moved_enqueue ?_, .llega q h⟩
    intro l puesta
    exact (inv.puestas q l puesta).2 h
  | encolada =>
    dsimp only
    split
    · exact quieto rfl
    · split <;> exact quieto rfl
  | decidida d => exact quieto (realizarDesalojo_lugares s d _)
  | porAvisar => exact quieto rfl
  | ninguna | fin => exact quieto rfl

theorem atenderDesconexionQuery_movimiento (unico : (lugares s).Unique) :
    Movimiento s (.desconexion q) (atenderDesconexionQuery config s q) := by
  unfold atenderDesconexionQuery
  dsimp only
  cases h : s.vigias q with
  | pendiente | avisada =>
    dsimp only
    split <;> exact quieto rfl
  | desalojando d => exact quieto (realizarDesalojo_lugares s d _)
  | evaluada =>
    dsimp only
    split
    · by_cases enCola : q ∈ s.colaQueries
      · exact .inr ⟨q, none, moved_withdraw unico enCola, .retirada q h⟩
      · refine quieto ?_
        simp only [lugares, List.erase_of_not_mem enCola]
    · exact quieto rfl
  | quitando | saliendo | uniendo | liberada | ninguno | fin => exact quieto rfl

variable (config) in
theorem paso_movimiento (inv : Ordenado s) (e : Evento) : Movimiento s e (paso config s e) := by
  cases e with
  | conectaWorker id =>
    refine quieto ?_
    have libre := sostenida_eq (inv.nuevas s.cantidadConexiones (Nat.le_refl _))
    exact lugares_enConexion_igual (f := fun _ => .nueva id .conectada) libre.symm
  | conectaInterrupcion c => exact quieto atenderWorkerInterrupt_lugares
  | cierraWorker c => exact quieto (lugares_enConexion_igual rfl)
  | reporta c m => exact quieto (lugares_enConexion_igual rfl)
  | despacho c => exact despachar_movimiento inv.unico
  | vigilante c => exact quieto vigilar_lugares
  | llega path prioridad basura => exact quieto rfl
  | consulta q => exact atenderQuery_movimiento inv
  | timer q => exact quieto atenderTimerQuery_lugares
  | cierraQuery q => exact quieto rfl
  | desconexion q => exact atenderDesconexionQuery_movimiento inv.unico

variable (config) in
theorem llegadas_paso (e : Evento) (inv : Ordenado s) :
    (∀ q, Puesta (s.llegadas q) → Puesta ((paso config s e).llegadas q)) ∧
    (∀ q, (paso config s e).llegadas q ≠ .ninguna → q < (paso config s e).idQuery) ∧
    s.cantidadConexiones ≤ (paso config s e).cantidadConexiones := by
  have igual {s' : Master} (llegadas : s'.llegadas = s.llegadas) (id : s'.idQuery = s.idQuery)
      (cantidad : s'.cantidadConexiones = s.cantidadConexiones) :
      (∀ q, Puesta (s.llegadas q) → Puesta (s'.llegadas q)) ∧
      (∀ q, s'.llegadas q ≠ .ninguna → q < s'.idQuery) ∧
      s.cantidadConexiones ≤ s'.cantidadConexiones := by
    rw [llegadas, id, cantidad]
    exact ⟨fun _ h => h, inv.llegadas, Nat.le_refl _⟩
  have quieto {s' : Master} (h : registro s' = registro s) := by
    simp only [registro, Prod.mk.injEq] at h
    exact igual h.1 h.2.1 h.2.2.1
  have numeros {s' : Master} (h : marco s' = marco s) :
      s'.idQuery = s.idQuery ∧ s'.cantidadConexiones = s.cantidadConexiones := by
    simp only [marco, Prod.mk.injEq] at h
    exact ⟨h.1, h.2.1⟩
  cases e with
  | conectaWorker id => exact ⟨fun _ h => h, inv.llegadas, Nat.le_succ _⟩
  | conectaInterrupcion c => exact quieto atenderWorkerInterrupt_registro
  | cierraWorker c => exact quieto rfl
  | reporta c m => exact quieto rfl
  | despacho c => exact quieto despachar_registro
  | vigilante c => exact quieto vigilar_registro
  | timer q => exact quieto atenderTimerQuery_registro
  | cierraQuery q => exact igual rfl rfl rfl
  | desconexion q =>
    have same : marco (atenderDesconexionQuery config s q) = marco s :=
      atenderDesconexionQuery_marco
    obtain ⟨id, cantidad⟩ := numeros same
    exact igual (atenderDesconexionQuery_llegadas config) id cantidad
  | llega path prioridad basura =>
    simp only [paso, nuevaQuery]
    refine ⟨fun q h => ?_, fun q h => ?_, Nat.le_refl _⟩
    · have vieja : q ≠ s.idQuery := by
        have := inv.llegadas q h.1
        omega
      rwa [Function.update_of_ne vieja]
    · by_cases vieja : q = s.idQuery
      · omega
      · rw [Function.update_of_ne vieja] at h
        have := inv.llegadas q h
        omega
  | consulta q =>
    simp only [paso]
    have same : marco (atenderQuery config s q) = marco s := atenderQuery_marco
    obtain ⟨id, cantidad⟩ := numeros same
    rcases atenderQuery_llegadas config (s := s) (q := q) with mismas | ⟨ya, l, puesta, nuevas⟩
    · exact igual mismas id cantidad
    · rw [id, cantidad, nuevas]
      refine ⟨fun t h => ?_, fun t h => ?_, Nat.le_refl _⟩
      · by_cases same : t = q
        · rwa [same, Function.update_self]
        · rwa [Function.update_of_ne same]
      · by_cases same : t = q
        · exact same ▸ inv.llegadas q ya
        · rw [Function.update_of_ne same] at h
          exact inv.llegadas t h

variable (config) in
theorem ordenado_paso (e : Evento) (inv : Ordenado s) : Ordenado (paso config s e) := by
  obtain ⟨sigue, ids, crece⟩ := llegadas_paso config e inv
  have nuevas : ∀ c, (paso config s e).cantidadConexiones ≤ c →
      ((paso config s e).conexiones c).despachador = .ninguno := by
    intro c fuera
    have ninguno := inv.nuevas c (Nat.le_trans crece fuera)
    by_cases propio : e = .despacho c
    · subst propio
      simp [paso, despachar, ninguno]
    · refine (congrArg Prod.snd (ficha_ajena propio ?_)).trans ninguno
      rintro id rfl
      have : s.cantidadConexiones + 1 ≤ c := fuera
      omega
  rcases paso_movimiento config inv e with igual | ⟨q, target, mv, causa⟩
  · constructor
    · exact igual ▸ inv.unico
    · intro q l h
      exact sigue q (inv.puestas q l (igual ▸ h))
    · exact ids
    · exact nuevas
  · constructor
    · exact unique_moved mv inv.unico
    · intro t l h
      rcases (mv.at_iff t l).mp h with ⟨_, estaba⟩ | ⟨same, llega⟩
      · exact sigue t (inv.puestas t l estaba)
      · subst same
        cases causa with
        | llega _ nueva => simp [paso, atenderQuery, nueva, Puesta]
        | pasa c _ l' _ estaba => exact sigue t (inv.puestas t l' estaba)
        | responde | desconectada | retirada => contradiction
    · exact ids
    · exact nuevas

theorem ordenado_inicial : Ordenado masterInicial := by
  constructor
  · constructor
    · intro q l l' h _
      cases l <;> simp [lugares, masterInicial, Places.At, Conexion.nueva, sostiene] at h
    · simp [lugares, masterInicial]
    · simp [lugares, masterInicial]
  · intro q l h
    cases l <;> simp [lugares, masterInicial, Places.At, Conexion.nueva, sostiene] at h
  · intro q h
    exact (h rfl).elim
  · intro c _
    rfl

variable (config) in
theorem ordenado_corrida (es : List Evento) : Ordenado (correr config masterInicial es) :=
  invariant_run Ordenado (fun _ e inv => ordenado_paso config e inv) ordenado_inicial es

end MasterLugares
