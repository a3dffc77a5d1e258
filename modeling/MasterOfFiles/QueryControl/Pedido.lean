import Mathlib.Data.List.Induction
import MasterOfFiles.Master.Liberadas
import MasterOfFiles.Master.Lugares
import MasterOfFiles.QueryControl.Consola
import MasterOfFiles.Sistema.Red

/-!
A query from its Query Control to the Worker that runs it: the file and the priority are sent to
the Master, which keeps them, and sends them on each time it assigns the query, with the pc that
the Workers reported.
-/
namespace QueryControl
open Mensajes MasterEstado MasterManejo MasterHilos MasterMarcos MasterReglas MasterLugares
  MasterLiberadas
open StorageEstado (Bytes)
open Paquetes (Entero recibirPaquete enLinea total enviarPaquete armar enviarPaquete_armar
  recibirPaquete_enLinea)
open Valores (valor Cabe enteroEn textoEn listGet listSize leerTexto_valor leerEntero_valor
  bytesDeTexto)

/-- The last place of a character in a string, and what follows. -/
def strrchr (c : Char) : List Char → Option (List Char)
  | [] => none
  | x :: xs =>
    match strrchr c xs with
    | some desde => some desde
    | none => if x = c then some (x :: xs) else none

def nombreArchivo (archivoQuery : String) : String :=
  match strrchr '/' archivoQuery.toList with
  | none => archivoQuery
  | some desde => String.ofList desde.tail

/-- QUERY_REQUEST -/
def codigoPedido : Entero := 4

def valoresPedido (archivoQuery : String) (prioridad : Int) : List Bytes :=
  [valor (.texto (nombreArchivo archivoQuery)), valor (.entero prioridad)]

def enviarPathYPrioridad (archivoQuery : String) (prioridad : Int) : Option Bytes :=
  enviarPaquete (armar codigoPedido (valoresPedido archivoQuery prioridad))

/-- What atender_Query reads: the path and the priority. Another op code is only logged; none: it
    reads what is not there. -/
def leerPedido (socket : Bytes) : Option (String × Int) :=
  match recibirPaquete socket with
  | (.valores _ paqueteQuery, _) => do
    let path ← textoEn paqueteQuery 1
    let prioridad ← enteroEn paqueteQuery 2
    return (path, prioridad)
  | _ => none

structure Pcb where
  queryId : Int
  pathQuery : String
  prioridad : Int
  pc : Int
  deriving DecidableEq, Repr

/-- recibir_path_de_query up to the opening of the file: what it read, or NULL; none: it reads a
    payload that the packet does not have. -/
def recibirPathDeQuery (socket : Bytes) : Option (Option Pcb × Bytes) :=
  match recibirPaquete socket with
  | (.nulo, resto) => some (none, resto)
  | (.fueraDelBuffer, _) => none
  | (.valores codigoOperacion paquetePath, resto) =>
    if codigoOperacion = -1 then some (none, resto)
    else if codigoOperacion = entero .workerAssignQuery then
      if listSize paquetePath < 5 then some (none, resto)
      else do
        let queryId ← enteroEn paquetePath 1
        let pathQuery ← textoEn paquetePath 2
        let prioridad ← enteroEn paquetePath 3
        let pc ← enteroEn paquetePath 4
        return (some ⟨queryId, pathQuery, prioridad, pc⟩, resto)
    else some (none, resto)

theorem not_mem_of_strrchr {c : Char} {cs : List Char} (h : strrchr c cs = none) : c ∉ cs := by
  induction cs with
  | nil => exact List.not_mem_nil
  | cons x xs ih =>
    unfold strrchr at h
    split at h
    · contradiction
    · rename_i nothing
      split at h
      · contradiction
      · rename_i other
        exact List.not_mem_cons_of_ne_of_not_mem (Ne.symm other) (ih nothing)

theorem strrchr_tail {c : Char} {cs desde : List Char} (h : strrchr c cs = some desde) :
    c ∉ desde.tail ∧ desde.tail <:+ cs := by
  induction cs generalizing desde with
  | nil => contradiction
  | cons x xs ih =>
    unfold strrchr at h
    split at h
    · rename_i later found
      cases h
      exact ⟨(ih found).1, (ih found).2.trans (List.suffix_cons x xs)⟩
    · rename_i nothing
      split at h
      · cases h
        exact ⟨not_mem_of_strrchr nothing, List.suffix_cons x xs⟩
      · contradiction

theorem nombreArchivo_spec (archivoQuery : String) :
    '/' ∉ (nombreArchivo archivoQuery).toList ∧
      (nombreArchivo archivoQuery).toList <:+ archivoQuery.toList := by
  unfold nombreArchivo
  split
  · rename_i nothing
    exact ⟨not_mem_of_strrchr nothing, List.suffix_rfl⟩
  · rename_i desde found
    rw [String.toList_ofList]
    exact strrchr_tail found

theorem cabe_nombreArchivo {archivoQuery : String} (fits : Cabe (.texto archivoQuery)) :
    Cabe (.texto (nombreArchivo archivoQuery)) :=
  fun c hc => fits c ((nombreArchivo_spec archivoQuery).2.subset hc)

/-- The path and the priority are C values, and the packets that carry them have an int's size:
    the one to the Worker has two ints more. -/
structure CabePedido (archivoQuery : String) (prioridad : Int) : Prop where
  path : Cabe (.texto archivoQuery)
  prioridad : Cabe (.entero prioridad)
  largo : archivoQuery.toList.length + 37 < 2 ^ 31

variable {archivoQuery : String} {prioridad : Int}

theorem leerPedido_enviado (fits : CabePedido archivoQuery prioridad) :
    ∃ socket, enviarPathYPrioridad archivoQuery prioridad = some socket ∧
      leerPedido socket = some (nombreArchivo archivoQuery, prioridad) := by
  have short := (nombreArchivo_spec archivoQuery).2.length_le
  have room : total (valoresPedido archivoQuery prioridad) + 8 < 2 ^ 31 := by
    have largo := fits.largo
    have four : (valor (.entero prioridad)).length = 4 := Paquetes.length_bytesDe _
    simp only [valoresPedido, total, valor, bytesDeTexto, List.map_cons, List.map_nil,
      List.sum_cons, List.sum_nil, List.length_append, List.length_map, List.length_cons,
      List.length_nil, Paquetes.length_bytesDe] at four ⊢
    omega
  refine ⟨_, enviarPaquete_armar _ _ room, ?_⟩
  have there := recibirPaquete_enLinea codigoPedido (valoresPedido archivoQuery prioridad) []
    (Nat.lt_of_add_right_lt room)
  rw [List.append_nil] at there
  have path : textoEn (valoresPedido archivoQuery prioridad) 1 =
      some (nombreArchivo archivoQuery) := leerTexto_valor (cabe_nombreArchivo fits.path)
  have number : enteroEn (valoresPedido archivoQuery prioridad) 2 = some prioridad :=
    leerEntero_valor fits.prioridad
  rw [leerPedido, there]
  simp only [path, number, Option.bind_eq_bind, Option.bind_some, Option.pure_def]

theorem recibirPathDeQuery_enSocket {q : Int} {t : Query} (resto : Bytes)
    (fits : Valido (workerAssignQuery q t)) (room : CabePaquete (workerAssignQuery q t)) :
    recibirPathDeQuery (enSocket (workerAssignQuery q t) ++ resto) =
      some (some ⟨q, t.path, t.prioridad, t.programCounter⟩, resto) := by
  have there := recibirPaquete_enSocket room resto
  have code : (workerAssignQuery q t).codigo = .workerAssignQuery := rfl
  have other : entero .workerAssignQuery ≠ -1 := by decide
  have size : listSize (valores (workerAssignQuery q t)) = 5 := rfl
  have queryId : enteroEn (valores (workerAssignQuery q t)) 1 = some q := enteroEn_valores fits rfl
  have path : textoEn (valores (workerAssignQuery q t)) 2 = some t.path := textoEn_valores fits rfl
  have priority : enteroEn (valores (workerAssignQuery q t)) 3 = some t.prioridad :=
    enteroEn_valores fits rfl
  have pc : enteroEn (valores (workerAssignQuery q t)) 4 = some t.programCounter :=
    enteroEn_valores fits rfl
  rw [code] at there
  rw [recibirPathDeQuery, there]
  simp only [if_neg other, size, queryId, path, priority, pc, Option.bind_eq_bind,
    Option.bind_some, Option.pure_def]
  rfl

def pedidas (es : List Evento) : List (String × Int) :=
  es.filterMap fun
    | .llega path prioridad _ => some (path, prioridad)
    | _ => none

def Pedida (es : List Evento) (q : Int) (path : String) (prioridad : Int) : Prop :=
  ∃ i : Nat, q = i ∧ (pedidas es)[i]? = some (path, prioridad)

def Dijo (es : List Evento) (q pc : Int) : Prop :=
  ∃ c m, .reporta c m ∈ es ∧
    ((∃ r, manejo m = some (.lectura q pc r)) ∨ manejo m = some (.reencolar q pc))

/-- The query is the one that was asked for: its priority went down, but not below 0, and it goes
    on where a Worker said, or from its first line. -/
structure Fiel (es : List Evento) (q : Int) (path : String) (prioridad : Int) (t : Query) :
    Prop where
  path : t.path = path
  baja : t.prioridad ≤ prioridad
  piso : min prioridad 0 ≤ t.prioridad
  pc : t.programCounter = 0 ∨ Dijo es q t.programCounter

def QueryFiel (es : List Evento) (q : Int) (t : Query) : Prop :=
  ∀ path prioridad, Pedida es q path prioridad → Fiel es q path prioridad t

structure ConexionFiel (es : List Evento) (con : Conexion) : Prop where
  entrada : ∀ m ∈ con.entrada, ∃ c, .reporta c m ∈ es
  reencolando : ∀ q pc, con.despachador = .reencolando q pc → Dijo es q pc
  agregada : ∀ idWorker q, con.despachador = .agregada idWorker q →
    ∃ path prioridad, Pedida es q path prioridad
  asignaciones : ∀ a ∈ con.asignaciones, ∃ q path prioridad t, Pedida es q path prioridad ∧
    Fiel es q path prioridad t ∧ a = workerAssignQuery q t

structure Fieles (es : List Evento) (s : Master) : Prop where
  cuenta : ((pedidas es).length : Int) = s.idQuery
  llegadas : ∀ q, s.llegadas q ≠ .ninguna → ∃ path prioridad, Pedida es q path prioridad
  todas : Todas (ConexionFiel es) (QueryFiel es) s

variable {es : List Evento} {e : Evento} {q : Int} {path : String} {t : Query} {s : Master}
  {config : Config}

theorem pedidas_snoc (es : List Evento) (e : Evento) : pedidas es <+: pedidas (es ++ [e]) := by
  simp [pedidas, List.filterMap_append]

theorem pedidas_sinLlegar (es : List Evento)
    (otro : ∀ path prioridad basura, e ≠ .llega path prioridad basura) :
    pedidas (es ++ [e]) = pedidas es := by
  cases e with
  | llega path prioridad basura => exact (otro path prioridad basura rfl).elim
  | _ => simp [pedidas]

theorem Pedida.snoc (h : Pedida es q path prioridad) (e : Evento) :
    Pedida (es ++ [e]) q path prioridad := by
  obtain ⟨i, same, at_⟩ := h
  obtain ⟨otras, all⟩ := pedidas_snoc es e
  refine ⟨i, same, ?_⟩
  have inside := (List.getElem?_eq_some_iff.mp at_).1
  rw [← all, List.getElem?_append_left inside, at_]

theorem Dijo.snoc {pc : Int} (h : Dijo es q pc) (e : Evento) : Dijo (es ++ [e]) q pc := by
  obtain ⟨c, m, sent, lee⟩ := h
  exact ⟨c, m, List.mem_append_left _ sent, lee⟩

theorem Fiel.snoc (h : Fiel es q path prioridad t) (e : Evento) :
    Fiel (es ++ [e]) q path prioridad t :=
  ⟨h.path, h.baja, h.piso, h.pc.imp_right fun dijo => dijo.snoc e⟩

theorem Fiel.responder (h : Fiel es q path prioridad t) (respuesta : Paquete) :
    Fiel es q path prioridad (t.responder respuesta) := ⟨h.path, h.baja, h.piso, h.pc⟩

theorem ConexionFiel.snoc {con : Conexion} (h : ConexionFiel es con) (e : Evento) :
    ConexionFiel (es ++ [e]) con where
  entrada m hm := by
    obtain ⟨c, sent⟩ := h.entrada m hm
    exact ⟨c, List.mem_append_left _ sent⟩
  reencolando q pc en := (h.reencolando q pc en).snoc e
  agregada idWorker q en := by
    obtain ⟨path, prioridad, pedida⟩ := h.agregada idWorker q en
    exact ⟨path, prioridad, pedida.snoc e⟩
  asignaciones a ha := by
    obtain ⟨q, path, prioridad, t, pedida, fiel, rfl⟩ := h.asignaciones a ha
    exact ⟨q, path, prioridad, t, pedida.snoc e, fiel.snoc e, rfl⟩

theorem fiel_estable (es : List Evento) : Estable (ConexionFiel es) (QueryFiel es) where
  marcas con same entrada asignaciones := by
    obtain ⟨_, despachador⟩ := Prod.mk.inj same
    exact ⟨entrada ▸ con.entrada, despachador ▸ con.reencolando, despachador ▸ con.agregada,
      asignaciones ▸ con.asignaciones⟩
  pasa suelto con := by
    refine ⟨con.entrada, ?_, ?_, con.asignaciones⟩
    · rintro q pc ⟨⟩
      exact suelto.elim
    · rintro idWorker q ⟨⟩
      exact suelto.elim
  consume there con :=
    ⟨fun m hm => con.entrada m (there ▸ List.mem_cons_of_mem _ hm), con.reencolando,
      con.agregada, con.asignaciones⟩
  completa there _ con :=
    ⟨fun m hm => con.entrada m (there ▸ List.mem_cons_of_mem _ hm), nofun, nofun,
      con.asignaciones⟩
  reencola there lee con := by
    refine ⟨fun m hm => con.entrada m (there ▸ List.mem_cons_of_mem _ hm), ?_, nofun,
      con.asignaciones⟩
    rintro q pc ⟨⟩
    obtain ⟨c, sent⟩ := con.entrada _ (there ▸ List.mem_cons_self)
    exact ⟨c, _, sent, .inr lee⟩
  asigna en con t := by
    refine ⟨con.entrada, nofun, nofun, fun a ha => ?_⟩
    rcases List.mem_append.mp ha with old | new
    · exact con.asignaciones a old
    · obtain ⟨path, prioridad, pedida⟩ := con.agregada _ _ en
      exact ⟨_, path, prioridad, _, pedida, t path prioridad pedida, List.mem_singleton.mp new⟩
  sigue t path prioridad pc _ := by
    intro path' prioridad' pedida
    have fiel := t path' prioridad' pedida
    exact ⟨path.trans fiel.path, prioridad ▸ fiel.baja, prioridad ▸ fiel.piso, pc ▸ fiel.pc⟩
  baja positiva t := by
    intro path prioridad pedida
    have fiel := t path prioridad pedida
    refine ⟨fiel.path, ?_, ?_, fiel.pc⟩
    · have := fiel.baja
      dsimp only
      omega
    · dsimp only
      omega
  lee there lee con t := by
    intro path prioridad pedida
    have fiel := t path prioridad pedida
    obtain ⟨c, sent⟩ := con.entrada _ (there ▸ List.mem_cons_self)
    exact ⟨fiel.path, fiel.baja, fiel.piso, .inr ⟨c, _, sent, .inl ⟨_, lee⟩⟩⟩
  responde _ _ t := fun path prioridad pedida => (t path prioridad pedida).responder _
  vuelve en con t := by
    intro path prioridad pedida
    have fiel := t path prioridad pedida
    exact ⟨fiel.path, fiel.baja, fiel.piso, .inr (con.reencolando _ _ en)⟩
  avisa _ t := fun path prioridad pedida => (t path prioridad pedida).responder _

theorem llega_fieles (h : Fieles es s) (path : String) (prioridad basura : Int) :
    Fieles (es ++ [.llega path prioridad basura]) (nuevaQuery s path prioridad basura) := by
  have all : pedidas (es ++ [.llega path prioridad basura]) =
      pedidas es ++ [(path, prioridad)] := by
    simp [pedidas]
  have nueva : Pedida (es ++ [.llega path prioridad basura]) s.idQuery path prioridad :=
    ⟨(pedidas es).length, h.cuenta.symm, by rw [all]; exact List.getElem?_concat_length⟩
  have vieja {q : Int} {path' : String} {prioridad' : Int} (other : q ≠ s.idQuery)
      (pedida : Pedida (es ++ [.llega path prioridad basura]) q path' prioridad') :
      Pedida es q path' prioridad' := by
    obtain ⟨i, rfl, at_⟩ := pedida
    have cuenta := h.cuenta
    have inside := (List.getElem?_eq_some_iff.mp at_).1
    rw [all, List.length_append, List.length_singleton] at inside
    have before : i < (pedidas es).length := by omega
    rw [all, List.getElem?_append_left before] at at_
    exact ⟨i, rfl, at_⟩
  refine ⟨?_, fun q => ?_, fun c => (h.todas.1 c).snoc _, fun q path' prioridad' pedida => ?_⟩
  · have cuenta := h.cuenta
    rw [all, List.length_append, List.length_singleton]
    simp only [nuevaQuery]
    omega
  · by_cases at_ : q = s.idQuery
    · exact fun _ => ⟨path, prioridad, at_ ▸ nueva⟩
    · simp only [nuevaQuery, Function.update_of_ne at_]
      intro llegada
      obtain ⟨path', prioridad', pedida⟩ := h.llegadas q llegada
      exact ⟨path', prioridad', pedida.snoc _⟩
  · by_cases at_ : q = s.idQuery
    · subst at_
      obtain ⟨i, same, read⟩ := pedida
      obtain ⟨j, same', read'⟩ := nueva
      obtain rfl : i = j := by omega
      rw [read] at read'
      cases read'
      simp only [nuevaQuery, Function.update_self]
      exact ⟨rfl, Int.le_refl _, by dsimp only; omega, .inl rfl⟩
    · simp only [nuevaQuery, Function.update_of_ne at_]
      exact (h.todas.2 q path' prioridad' (vieja at_ pedida)).snoc _

theorem paso_fieles (inv : Ordenado s) (h : Fieles es s) (e : Evento) :
    Fieles (es ++ [e]) (paso config s e) := by
  by_cases arrives : ∃ path prioridad basura, e = .llega path prioridad basura
  · obtain ⟨path, prioridad, basura, rfl⟩ := arrives
    exact llega_fieles h path prioridad basura
  have otro : ∀ path prioridad basura, e ≠ .llega path prioridad basura :=
    fun path prioridad basura same => arrives ⟨path, prioridad, basura, same⟩
  have same := pedidas_sinLlegar es otro
  obtain ⟨ids, antes⟩ := paso_sinLlegar config s otro
  have before : Todas (ConexionFiel (es ++ [e])) (QueryFiel (es ++ [e])) s := by
    refine ⟨fun c => (h.todas.1 c).snoc e, fun q path prioridad pedida => ?_⟩
    rw [Pedida, same] at pedida
    exact (h.todas.2 q path prioridad pedida).snoc e
  have pedida_ {q : Int} (llegada : s.llegadas q ≠ .ninguna) :
      ∃ path prioridad, Pedida (es ++ [e]) q path prioridad := by
    obtain ⟨path, prioridad, pedida⟩ := h.llegadas q llegada
    exact ⟨path, prioridad, pedida.snoc e⟩
  refine ⟨by rw [same, ids]; exact h.cuenta, fun q llegada => pedida_ (antes q llegada), ?_⟩
  refine paso_todas (fiel_estable _) before ?_ ?_ ?_ ?_
  · intro c idWorker q _ en con
    refine ⟨con.entrada, nofun, ?_, con.asignaciones⟩
    rintro idWorker q ⟨⟩
    have held : (lugares s).At q (.held c) := sostenida_eq en
    exact pedida_ (inv.puestas q _ held).1
  · rintro id rfl
    exact ⟨fun _ hm => absurd hm List.not_mem_nil, nofun, nofun,
      fun _ hm => absurd hm List.not_mem_nil⟩
  · rintro c m as rfl suffix con
    refine ⟨fun m' hm' => ?_, con.reencolando, con.agregada,
      fun a ha => con.asignaciones a (suffix.subset ha)⟩
    rcases List.mem_append.mp hm' with old | new
    · exact con.entrada m' old
    · exact ⟨c, by simp [List.mem_singleton.mp new]⟩
  · exact fun path prioridad basura same => (otro path prioridad basura same).elim

theorem correr_fieles (config : Config) (es : List Evento) :
    Fieles es (correr config masterInicial es) := by
  induction es using List.reverseRecOn with
  | nil =>
    refine ⟨rfl, fun _ llegada => absurd rfl llegada, fun c => ?_, ?_⟩
    · exact ⟨fun _ hm => absurd hm List.not_mem_nil, nofun, nofun,
        fun _ hm => absurd hm List.not_mem_nil⟩
    · rintro q path prioridad ⟨i, _, at_⟩
      exact absurd at_ (by simp [pedidas])
  | append_singleton es e ih =>
    rw [correr_append]
    exact paso_fieles (ordenado_corrida config es) ih e

theorem cabe_entero {n : Int} : Cabe (.entero n) ↔ -2147483648 ≤ n ∧ n < 2147483648 := by
  refine ⟨fun fits => ?_, fun bounds => ?_⟩
  · have low := BitVec.le_toInt (BitVec.ofInt 32 n)
    have high := BitVec.toInt_lt (x := BitVec.ofInt 32 n)
    rw [show (BitVec.ofInt 32 n).toInt = n from fits] at low high
    omega
  · exact BitVec.toInt_ofInt_eq_self (by decide) (by omega) (by omega)

theorem cabe_of_dijo (validos : ∀ e ∈ es, EventoValido e) {pc : Int} (dijo : Dijo es q pc) :
    Cabe (.entero pc) := by
  obtain ⟨c, m, sent, lee⟩ := dijo
  have valido : Valido m := validos _ sent
  rcases lee with ⟨r, lee⟩ | lee
  · exact (manejo_legible valido lee).2
  · exact manejo_legible valido lee

/-- The Worker reads the query with this id, that its Query Control asked for: its file without
    the directories, no more than its priority, and a pc that a Worker reported or the first. -/
structure EsDe (es : List Evento) (solicitudes : List (String × Int)) (pcb : Pcb) : Prop where
  pedida : ∃ (i : Nat) (archivoQuery : String) (prioridad : Int), pcb.queryId = i ∧
    solicitudes[i]? = some (archivoQuery, prioridad) ∧
    pcb.pathQuery = nombreArchivo archivoQuery ∧
    pcb.prioridad ≤ prioridad ∧ min prioridad 0 ≤ pcb.prioridad
  pc : pcb.pc = 0 ∨ Dijo es pcb.queryId pcb.pc

/-- In every run whose arrivals are what the Master read of the bytes of its Query Controls, and in
    which no thread reads a query that was freed, each assignment that a Worker reads from its
    socket is one of the queries that they asked for. -/
theorem pedido_hasta_el_worker (config : Config) (es : List Evento) (s : Master)
    (run : ejecutar config masterInicial es = some s) (solicitudes : List (String × Int))
    (fit : ∀ p ∈ solicitudes, CabePedido p.1 p.2)
    (pocas : solicitudes.length ≤ 2 ^ 31) (validos : ∀ e ∈ es, EventoValido e)
    (recibidas : (pedidas es).map some =
      solicitudes.map fun p => (enviarPathYPrioridad p.1 p.2).bind leerPedido)
    (c : Nat) (a : Paquete)
    (asignada : a ∈ (s.conexiones c).asignaciones) :
    ∃ socket pcb, enviar a = some socket ∧ EsDe es solicitudes pcb ∧
      SistemaRed.leerAsignacion a = some (.asignacion pcb.queryId pcb.pathQuery pcb.pc.toNat) ∧
      ∀ resto, recibirPathDeQuery (socket ++ resto) = some (some pcb, resto) := by
  rw [← correr_of_ejecutar run] at asignada
  obtain ⟨q, path, prioridad, t, ⟨i, rfl, pedida⟩, fiel, rfl⟩ :=
    ((correr_fieles config es).todas.1 c).asignaciones a asignada
  obtain ⟨⟨archivoQuery, prioridad'⟩, solicitud, leida⟩ :
      ∃ p, solicitudes[i]? = some p ∧
        (enviarPathYPrioridad p.1 p.2).bind leerPedido = some (path, prioridad) := by
    have read : (solicitudes.map fun p =>
        (enviarPathYPrioridad p.1 p.2).bind leerPedido)[i]? = some (some (path, prioridad)) := by
      rw [← recibidas, List.getElem?_map, pedida]
      rfl
    rw [List.getElem?_map] at read
    exact Option.map_eq_some_iff.mp read
  have fits : CabePedido archivoQuery prioridad' := fit _ (List.mem_of_getElem? solicitud)
  obtain ⟨bytes, sent, read⟩ := leerPedido_enviado fits
  rw [sent, Option.bind_some, read] at leida
  cases leida
  have inside := (List.getElem?_eq_some_iff.mp solicitud).1
  have name := fiel.path
  have bounds := cabe_entero.mp fits.prioridad
  have baja := fiel.baja
  have piso := fiel.piso
  have pcFits : Cabe (.entero t.programCounter) := by
    rcases fiel.pc with zero | dijo
    · rw [zero]
      exact Valores.cabe_nat (by decide)
    · exact cabe_of_dijo validos dijo
  have valido : Valido (workerAssignQuery i t) := by
    intro f hf
    simp only [workerAssignQuery, List.mem_cons, List.not_mem_nil, or_false] at hf
    rcases hf with rfl | rfl | rfl | rfl
    · exact cabe_entero.mpr (by omega)
    · exact name ▸ cabe_nombreArchivo fits.path
    · exact cabe_entero.mpr (by omega)
    · exact pcFits
  have room : CabePaquete (workerAssignQuery i t) := by
    have short := (nombreArchivo_spec archivoQuery).2.length_le
    have largo := fits.largo
    simp only [CabePaquete, valores, workerAssignQuery, campo, total, valor, bytesDeTexto, name,
      List.map_cons, List.map_nil, List.sum_cons, List.sum_nil, List.length_append,
      List.length_map, List.length_cons, List.length_nil, Paquetes.length_bytesDe]
    omega
  have suya : EsDe es solicitudes ⟨i, t.path, t.prioridad, t.programCounter⟩ :=
    ⟨⟨i, archivoQuery, _, rfl, solicitud, name, baja, piso⟩, fiel.pc⟩
  exact ⟨_, _, enviar_enSocket room, suya, rfl,
    fun resto => recibirPathDeQuery_enSocket resto valido room⟩

def recienAsignada : List Evento :=
  [.conectaWorker 1, .despacho 0, .despacho 0, .llega "q" 3 0, .consulta 0, .consulta 0,
    .consulta 0] ++ List.replicate 6 (.despacho 0)

theorem pedido_hasta_el_worker_uno :
    ∃ socket pcb, enviar (workerAssignQuery 0 ⟨"q", 3, 0, 1, .running, true, 0, []⟩) = some socket ∧
      EsDe recienAsignada [("dir/q", 3)] pcb ∧ ∀ resto,
        recibirPathDeQuery (socket ++ resto) = some (some pcb, resto) := by
  have fit : ∀ p ∈ [(("dir/q" : String), (3 : Int))], CabePedido p.1 p.2 := by
    intro p hp
    rw [List.mem_singleton.mp hp]
    exact ⟨by decide, Valores.cabe_nat (by decide), by decide⟩
  have validos : ∀ e ∈ recienAsignada, EventoValido e :=
    @of_decide_eq_true _ (List.decidableBAll _ recienAsignada) rfl
  obtain ⟨bytes, sent, read⟩ := leerPedido_enviado (fit ("dir/q", 3) List.mem_cons_self)
  have name : nombreArchivo "dir/q" = "q" := by decide
  rw [name] at read
  have recibidas : (pedidas recienAsignada).map some =
      [(("dir/q" : String), (3 : Int))].map fun p =>
        (enviarPathYPrioridad p.1 p.2).bind leerPedido := by
    rw [List.map_singleton, sent, Option.bind_some, read]
    rfl
  obtain ⟨socket, pcb, out, suya, _, lee⟩ := pedido_hasta_el_worker ⟨.fifo, 0⟩ recienAsignada
    (correr ⟨.fifo, 0⟩ masterInicial recienAsignada) (ejecutar_del_principio List.prefix_rfl rfl)
    [("dir/q", 3)] fit (by decide) validos recibidas 0
    (workerAssignQuery 0 ⟨"q", 3, 0, 1, .running, true, 0, []⟩) (by decide)
  exact ⟨socket, pcb, out, suya, lee⟩

end QueryControl
