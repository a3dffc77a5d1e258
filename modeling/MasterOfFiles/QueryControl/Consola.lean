import MasterOfFiles.Master.Reglas
import MasterOfFiles.Protocolo.Valores

/-!
The Query Control after its request: it reads the responses of the Master from the socket and
shows each one, until one that ends the query. What it shows is a function of the responses
that the Master sent, whatever the order of the steps in which it sent them.
-/
namespace QueryControl
open Mensajes MasterEstado MasterManejo MasterHilos MasterReglas
open StorageEstado (Bytes)
open Paquetes (Entero recibirPaquete enLinea total enviarPaquete armar enviarPaquete_armar
  recibirPaquete_enLinea)
open Valores (valor Cabe enteroEn textoEn listGet leerTexto_valor leerEntero_valor)

def numero : OpCode → Nat
  | .queryResponseRead => 5
  | .queryResponseEnd => 6
  | .queryResponseErrorWorkerDesconectado => 9
  | .queryResponseErrorErrorEnInstruccion => 10
  | .queryResponseErrorModificarCommit => 11
  | .queryResponseErrorTamanioEscrituraExcedido => 12
  | .queryResponseErrorTamanioLecturaExcedido => 13
  | .queryErrorCreate => 14
  | .queryErrorTruncate => 15
  | .queryErrorWriteEnStorage => 16
  | .queryErrorReadEnStorage => 17
  | .queryErrorTag => 18
  | .queryErrorCommit => 19
  | .queryErrorDelete => 20
  | .queryErrorFlush => 21
  | .workerAssignQuery => 22
  | .workerDesalojo => 23
  | .workerQueryDesconectado => 25
  | .workerPcUpdate => 27
  | .workerReadResult => 28
  | .workerQueryEnd => 29
  | .workerErrorInstruccionMalformada => 31
  | .workerErrorModificarCommit => 32
  | .workerErrorTamanioEscrituraExcedido => 33
  | .workerErrorTamanioLecturaExcedido => 34
  | .workerErrorDireccionInvalida => 35
  | .workerErrorQueryNoEncontrada => 36
  | .workerErrorCreate => 37
  | .workerErrorTruncate => 38
  | .workerErrorWriteEnStorage => 39
  | .workerErrorReadEnStorage => 40
  | .workerErrorTag => 41
  | .workerErrorCommit => 42
  | .workerErrorDelete => 43
  | .workerErrorFlush => 44
  | .storageSendOkCreateFile => 57
  | .storageSendOkTruncate => 60
  | .storageSendOkTag => 61
  | .storageSendOkCommit => 62
  | .storageSendOkDelete => 63
  | .storageSendOkFlush => 64
  | .storageSendErrorCreateFile => 66
  | .storageSendErrorReadBlock => 67
  | .storageSendErrorWriteBlock => 68
  | .storageSendErrorTruncate => 69
  | .storageSendErrorTag => 70
  | .storageSendErrorCommit => 71
  | .storageSendErrorDelete => 72
  | .storageSendErrorFlush => 73

def entero (codigo : OpCode) : Entero := BitVec.ofNat 32 (numero codigo)

def campo : Campo → Solicitudes.Campo
  | .entero n => .entero n
  | .texto s => .texto s

def valores (m : Paquete) : List Bytes := m.campos.map fun c => valor (campo c)

def enviar (m : Paquete) : Option Bytes := enviarPaquete (armar (entero m.codigo) (valores m))

def enSocket (m : Paquete) : Bytes := enLinea (entero m.codigo) (valores m)

def CabePaquete (m : Paquete) : Prop := total (valores m) + 8 < 2 ^ 31

instance (m : Paquete) : Decidable (CabePaquete m) := inferInstanceAs (Decidable (_ < _))

theorem enviar_enSocket {m : Paquete} (fits : CabePaquete m) : enviar m = some (enSocket m) :=
  enviarPaquete_armar _ _ fits

theorem recibirPaquete_enSocket {m : Paquete} (fits : CabePaquete m) (resto : Bytes) :
    recibirPaquete (enSocket m ++ resto) = (.valores (entero m.codigo) (valores m), resto) := by
  have small : total (valores m) < 2 ^ 31 := Nat.lt_of_add_right_lt fits
  exact recibirPaquete_enLinea _ _ resto small

def colorVerde : String := "\x1b[32m"

def lecturaRealizada (file tag contenido : String) : String :=
  colorVerde ++ "## Lectura realizada: File " ++ file ++ ":" ++ tag ++ ", contenido: " ++
    contenido ++ colorVerde

def errorEnInstruccion (instruccion : String) : String :=
  colorVerde ++ "## Query Finalizada - Error: Error Al Ejecutar la Instrucción: " ++ instruccion

def workerDesconectado (workerId : Int) : String :=
  "## Query Finalizada - Error: Worker con ID : " ++ toString workerId ++ " Desconectado"

def queryDesconectada : String := "## Query Finalizada - Query Desconectada de Master"

/-- What a case of the switch logs, and whether it returns. -/
structure Aviso where
  linea : String
  retorna : Bool
  deriving DecidableEq, Repr

def textoFijo : Nat → Option String
  | 6 => colorVerde ++ "## Query Finalizada - Query Finalizada Con Éxito" ++ colorVerde
  | 7 => "## Query Finalizada - Error: Archivo No Encontrado"
  | 8 => "## Query Finalizada - Error: Path de Query No Encontrado"
  | 11 => "## Query Finalizada - Error: Se Intento Modifical al Archivo que se Encuentra " ++
    "en estado de COMMITED"
  | 12 => "## Query Finalizada - Error: Tamaño de Escritura Excedido "
  | 13 => "## Query Finalizada - Error: Lectura fuera de limite "
  | 14 => "## Query Finalizada - Error: No se pudo crear el archivo "
  | 15 => "## Query Finalizada - Error: No se pudo realizar el TRUNCATE "
  | 16 => "## Query Finalizada - Error: No se pudo realizar la escritura en Storage "
  | 17 => "## Query Finalizada - Error: No se pudo realizar la lectura en Storage "
  | 18 => "## Query Finalizada - Error: No se pudo realizar el TAG "
  | 19 => "## Query Finalizada - Error: No se pudo realizar el COMMIT "
  | 20 => "## Query Finalizada - Error: No se pudo realizar el DELETE "
  | 21 => "## Query Finalizada - Error: No se pudo realizar el FLUSH "
  | _ => none

/-- The switch; none: it reads a payload that the packet does not have. -/
def procesar (codigoOperacion : Entero) (paqueteMaster : List Bytes) : Option Aviso :=
  match codigoOperacion.toNat with
  | 5 => do
    let file ← textoEn paqueteMaster 1
    let tag ← textoEn paqueteMaster 2
    let contenido ← textoEn paqueteMaster 3
    return ⟨lecturaRealizada file tag contenido, false⟩
  | 9 => do
    let workerId ← enteroEn paqueteMaster 1
    return ⟨workerDesconectado workerId, true⟩
  | 10 => do
    let instruccion ← textoEn paqueteMaster 1
    return ⟨errorEnInstruccion instruccion, true⟩
  | codigo =>
    match textoFijo codigo with
    | some linea => some ⟨linea, true⟩
    | none => some ⟨"Código de operación desconocido: " ++ toString codigoOperacion.toInt, false⟩

/-- What is shown and what is left on the socket; none when the turns it is given are not
    enough, or a value is read outside its bytes. -/
def procesarRespuestasMaster : Nat → Bytes → Option (List String × Bytes)
  | 0, _ => none
  | turnos + 1, socket =>
    match recibirPaquete socket with
    | (.nulo, resto) => some ([queryDesconectada], resto)
    | (.fueraDelBuffer, _) => none
    | (.valores codigoOperacion paqueteMaster, resto) => do
      let aviso ← procesar codigoOperacion paqueteMaster
      if aviso.retorna then return ([aviso.linea], resto)
      let (lineas, resto) ← procesarRespuestasMaster turnos resto
      return (aviso.linea :: lineas, resto)

/-- What a response says; none when it is not one, or lacks what the Query Control reads. -/
def linea (m : Paquete) : Option String :=
  match m.codigo with
  | .queryResponseRead => do
    return lecturaRealizada (← m.texto 1) (← m.texto 2) (← m.texto 3)
  | .queryResponseErrorWorkerDesconectado => (m.entero 1).map workerDesconectado
  | .queryResponseErrorErrorEnInstruccion => (m.texto 1).map errorEnInstruccion
  | codigo => textoFijo (numero codigo)

def Valido (m : Paquete) : Prop := ∀ c ∈ m.campos, Cabe (campo c)

instance (m : Paquete) : Decidable (Valido m) := List.decidableBAll _ m.campos

def Legible (m : Paquete) : Prop := (linea m).isSome ∧ Valido m

/-- The lines of the responses up to the first one that ends the query; if none does, the Master
    is gone after them. -/
def pantalla : List Paquete → List String
  | [] => [queryDesconectada]
  | m :: ms => (linea m).toList ++ if esTerminal m then [] else pantalla ms

def sobrantes (ms : List Paquete) : List Paquete := (ms.dropWhile fun m => !esTerminal m).tail

variable {m : Paquete}

theorem listGet_valores {i : Nat} {c : Campo} (h : m.campos[i - 1]? = some c) :
    listGet (valores m) i = some (valor (campo c)) := by
  rw [listGet, valores, List.getElem?_map, h]
  rfl

theorem enteroEn_valores (fits : Valido m) {i : Nat} {n : Int} (h : m.entero i = some n) :
    enteroEn (valores m) i = some n := by
  unfold Mensajes.Paquete.entero at h
  split at h
  · rename_i n' field
    cases h
    have room : Cabe (.entero n) := fits _ (List.mem_of_getElem? field)
    rw [enteroEn, listGet_valores field, Option.bind_some, campo, leerEntero_valor room]
  · contradiction

theorem textoEn_valores (fits : Valido m) {i : Nat} {s : String} (h : m.texto i = some s) :
    textoEn (valores m) i = some s := by
  unfold Mensajes.Paquete.texto at h
  split at h
  · rename_i s' field
    cases h
    have room : Cabe (.texto s) := fits _ (List.mem_of_getElem? field)
    rw [textoEn, listGet_valores field, Option.bind_some, campo, leerTexto_valor room]
  · contradiction

theorem procesar_linea (fits : Valido m) {texto : String} (h : linea m = some texto) :
    procesar (entero m.codigo) (valores m) = some ⟨texto, esTerminal m⟩ := by
  unfold linea at h
  split at h
  · rename_i codigo
    simp only [Option.bind_eq_bind, Option.bind_eq_some_iff, Option.pure_def,
      Option.some.injEq] at h
    obtain ⟨file, hfile, tag, htag, contenido, hcontenido, rfl⟩ := h
    simp only [procesar, textoEn_valores fits hfile, textoEn_valores fits htag,
      textoEn_valores fits hcontenido, esTerminal, codigo]
    rfl
  · rename_i codigo
    obtain ⟨workerId, hid, rfl⟩ := Option.map_eq_some_iff.mp h
    simp only [procesar, enteroEn_valores fits hid, esTerminal, codigo]
    rfl
  · rename_i codigo
    obtain ⟨instruccion, htexto, rfl⟩ := Option.map_eq_some_iff.mp h
    simp only [procesar, textoEn_valores fits htexto, esTerminal, codigo]
    rfl
  · rename_i lectura _ _
    have final : esTerminal m = true := decide_eq_true lectura
    rw [final]
    cases codigo : m.codigo <;> rw [codigo] at h <;> first | contradiction | (cases h; rfl)

theorem procesarRespuestasMaster_pantalla (ms : List Paquete) (legibles : ∀ m ∈ ms, Legible m)
    (fit : ∀ m ∈ ms, CabePaquete m) :
    ∀ turnos, ms.length < turnos →
      procesarRespuestasMaster turnos (ms.flatMap enSocket) =
        some (pantalla ms, (sobrantes ms).flatMap enSocket) := by
  induction ms with
  | nil =>
    intro turnos enough
    obtain ⟨turnos, rfl⟩ := Nat.exists_eq_succ_of_ne_zero (Nat.ne_of_gt enough)
    rfl
  | cons m ms ih =>
    intro turnos enough
    obtain ⟨turnos, rfl⟩ := Nat.exists_eq_succ_of_ne_zero (Nat.ne_of_gt (Nat.zero_lt_of_lt enough))
    obtain ⟨hay, valido⟩ := legibles m List.mem_cons_self
    obtain ⟨texto, dice⟩ := Option.isSome_iff_exists.mp hay
    have there := recibirPaquete_enSocket (fit m List.mem_cons_self) (ms.flatMap enSocket)
    have shown := procesar_linea valido dice
    rw [List.flatMap_cons, procesarRespuestasMaster, there]
    simp only [shown, Option.bind_eq_bind, Option.bind_some, pantalla, dice, Option.toList_some]
    cases final : esTerminal m with
    | true => simp [sobrantes, final]
    | false =>
      have rest := ih (fun m hm => legibles m (List.mem_cons_of_mem _ hm))
        (fun m hm => fit m (List.mem_cons_of_mem _ hm)) turnos (Nat.lt_of_succ_lt_succ enough)
      simp [sobrantes, final, rest]

def ManejoLegible : Manejo → Prop
  | .completar _ respuesta => Legible respuesta
  | .lectura _ pc respuesta => Legible respuesta ∧ Cabe (.entero pc)
  | .reencolar _ pc => Cabe (.entero pc)
  | _ => True

theorem cabe_of_entero (fits : Valido m) {i : Nat} {n : Int} (h : m.entero i = some n) :
    Cabe (.entero n) := by
  unfold Mensajes.Paquete.entero at h
  split at h
  · rename_i n' field
    cases h
    exact fits _ (List.mem_of_getElem? field)
  · contradiction

theorem cabe_of_texto (fits : Valido m) {i : Nat} {s : String} (h : m.texto i = some s) :
    Cabe (.texto s) := by
  unfold Mensajes.Paquete.texto at h
  split at h
  · rename_i s' field
    cases h
    exact fits _ (List.mem_of_getElem? field)
  · contradiction

theorem legible_fija {codigo : OpCode} {campos : List Campo}
    (fija : ∀ campos, (linea ⟨codigo, campos⟩).isSome = true)
    (fit : ∀ c ∈ campos, Cabe (campo c)) : Legible ⟨codigo, campos⟩ :=
  ⟨fija campos, fit⟩

theorem conTextoFijo_legible {codigo : OpCode} {texto : String} {lee : Manejo}
    (fija : ∀ campos, (linea ⟨codigo, campos⟩).isSome = true) (fits : Cabe (.texto texto))
    (h : conTextoFijo codigo texto m = some lee) : ManejoLegible lee := by
  simp only [conTextoFijo, Option.bind_eq_bind, Option.bind_eq_some_iff, Option.pure_def,
    Option.some.injEq] at h
  obtain ⟨idQuery, _, rfl⟩ := h
  exact legible_fija fija (by simpa [campo] using fits)

theorem errorConInstruccion_legible {codigo : OpCode} {lee : Manejo}
    (lees : ∀ s, (linea ⟨codigo, [.texto s]⟩).isSome = true) (valido : Valido m)
    (h : errorConInstruccion codigo m = some lee) : ManejoLegible lee := by
  simp only [errorConInstruccion, Option.bind_eq_bind, Option.bind_eq_some_iff, Option.pure_def,
    Option.some.injEq] at h
  obtain ⟨idQuery, _, instruccion, hinstruccion, rfl⟩ := h
  refine ⟨lees instruccion, ?_⟩
  simpa [Valido, campo] using cabe_of_texto valido hinstruccion

theorem errorConFileTag_legible {codigo : OpCode} {lee : Manejo}
    (fija : ∀ campos, (linea ⟨codigo, campos⟩).isSome = true) (valido : Valido m)
    (h : errorConFileTag codigo m = some lee) : ManejoLegible lee := by
  simp only [errorConFileTag, Option.bind_eq_bind, Option.bind_eq_some_iff, Option.pure_def,
    Option.some.injEq] at h
  obtain ⟨idQuery, _, file, hfile, tag, htag, rfl⟩ := h
  refine legible_fija fija ?_
  simpa [campo] using ⟨cabe_of_texto valido hfile, cabe_of_texto valido htag⟩

theorem readResult_legible {lee : Manejo} (valido : Valido m) (h : readResult m = some lee) :
    ManejoLegible lee := by
  simp only [readResult, Option.bind_eq_bind, Option.bind_eq_some_iff, Option.pure_def,
    Option.some.injEq] at h
  obtain ⟨idQuery, _, contenido, hcontenido, file, hfile, tag, htag, pc, hpc, rfl⟩ := h
  refine ⟨⟨rfl, ?_⟩, cabe_of_entero valido hpc⟩
  simpa [Valido, campo] using
    ⟨cabe_of_texto valido hfile, cabe_of_texto valido htag, cabe_of_texto valido hcontenido⟩

theorem manejo_legible {lee : Manejo} (valido : Valido m) (h : manejo m = some lee) :
    ManejoLegible lee := by
  unfold manejo at h
  split at h
  · exact readResult_legible valido h
  · exact conTextoFijo_legible (fun _ => rfl) (by decide) h
  · exact errorConInstruccion_legible (fun _ => rfl) valido h
  · exact errorConFileTag_legible (fun _ => rfl) valido h
  · exact errorConFileTag_legible (fun _ => rfl) valido h
  · simp only [pcUpdate, Option.bind_eq_bind, Option.bind_eq_some_iff, Option.pure_def,
      Option.some.injEq] at h
    obtain ⟨_, _, nuevoPC, hpc, rfl⟩ := h
    exact cabe_of_entero valido hpc
  · simp only [queryDesconectado, Option.bind_eq_bind, Option.bind_eq_some_iff, Option.pure_def,
      Option.some.injEq] at h
    obtain ⟨_, _, rfl⟩ := h
    trivial
  · exact errorConFileTag_legible (fun _ => rfl) valido h
  iterate 7 exact errorConInstruccion_legible (fun _ => rfl) valido h
  · exact conTextoFijo_legible (fun _ => rfl) (by decide) h
  · cases h
    trivial

structure ConexionLegible (con : Conexion) : Prop where
  id : Cabe (.entero con.id)
  entrada : ∀ m ∈ con.entrada, Valido m
  completando : ∀ q r, con.despachador = .completando q r → Legible r

def QueryLegible (t : Query) : Prop := ∀ m ∈ t.respuestas, Legible m

def EventoValido : Evento → Prop
  | .conectaWorker id => Cabe (.entero id)
  | .reporta _ m => Valido m
  | _ => True

instance : ∀ e, Decidable (EventoValido e)
  | .conectaWorker id => inferInstanceAs (Decidable (Cabe (.entero id)))
  | .reporta _ m => inferInstanceAs (Decidable (Valido m))
  | .conectaInterrupcion _ | .cierraWorker _ | .despacho _ | .vigilante _ | .llega _ _ _
  | .consulta _ | .timer _ | .cierraQuery _ | .desconexion _ => isTrue trivial

theorem queryLegible_responder {t : Query} (h : QueryLegible t) {respuesta : Paquete}
    (lee : Legible respuesta) : QueryLegible (t.responder respuesta) := by
  intro m hm
  rcases List.mem_append.mp hm with old | new
  · exact h m old
  · exact List.mem_singleton.mp new ▸ lee

theorem legible_estable : Estable ConexionLegible fun _ => QueryLegible where
  marcas con same entrada _ := by
    obtain ⟨id, despachador⟩ := Prod.mk.inj same
    exact ⟨id ▸ con.id, entrada ▸ con.entrada, despachador ▸ con.completando⟩
  pasa suelto con := by
    refine ⟨con.id, con.entrada, fun q r en => ?_⟩
    cases en
    exact suelto.elim
  consume there con :=
    ⟨con.id, fun m hm => con.entrada m (there ▸ List.mem_cons_of_mem _ hm), con.completando⟩
  completa there lee con := by
    refine ⟨con.id, fun m hm => con.entrada m (there ▸ List.mem_cons_of_mem _ hm), ?_⟩
    rintro q r ⟨⟩
    exact manejo_legible (con.entrada _ (there ▸ List.mem_cons_self)) lee
  reencola there _ con :=
    ⟨con.id, fun m hm => con.entrada m (there ▸ List.mem_cons_of_mem _ hm), nofun⟩
  asigna _ con _ := ⟨con.id, con.entrada, nofun⟩
  sigue t _ _ _ respuestas := by
    intro m hm
    exact t m (respuestas ▸ hm)
  baja _ t := t
  lee there lee con t :=
    queryLegible_responder t (manejo_legible (con.entrada _ (there ▸ List.mem_cons_self)) lee).1
  responde en con t := queryLegible_responder t (con.completando _ _ en)
  vuelve _ _ t := t
  avisa con t := queryLegible_responder t ⟨rfl, by simpa [Valido, campo] using con.id⟩

theorem correr_legible (config : Config) (es : List Evento)
    (validos : ∀ e ∈ es, EventoValido e) {s : Master}
    (h : Todas ConexionLegible (fun _ => QueryLegible) s) :
    Todas ConexionLegible (fun _ => QueryLegible) (correr config s es) := by
  induction es generalizing s with
  | nil => exact h
  | cons e es ih =>
    have valido := validos e List.mem_cons_self
    refine ih (fun e he => validos e (List.mem_cons_of_mem _ he)) ?_
    refine paso_todas legible_estable h ?_ ?_ ?_ ?_
    · exact fun c idWorker q _ _ con => ⟨con.id, con.entrada, nofun⟩
    · rintro id rfl
      exact ⟨valido, fun _ hm => absurd hm List.not_mem_nil, nofun⟩
    · rintro c m as rfl _ con
      refine ⟨con.id, fun m' hm' => ?_, con.completando⟩
      rcases List.mem_append.mp hm' with old | new
      · exact con.entrada m' old
      · exact List.mem_singleton.mp new ▸ valido
    · exact fun _ _ _ _ _ hm => absurd hm List.not_mem_nil

theorem masterInicial_legible : Todas ConexionLegible (fun _ => QueryLegible) masterInicial :=
  ⟨fun _ => ⟨rfl, fun _ hm => absurd hm List.not_mem_nil, nofun⟩,
    fun _ _ hm => absurd hm List.not_mem_nil⟩

def respuestasA (config : Config) (es : List Evento) (q : Int) : List Paquete :=
  ((correr config masterInicial es).queries q).respuestas

def enviadas (ms : List Paquete) : Option Bytes := (ms.mapM enviar).map List.flatten

theorem enviadas_enSocket (ms : List Paquete) (fit : ∀ m ∈ ms, CabePaquete m) :
    enviadas ms = some (ms.flatMap enSocket) := by
  induction ms with
  | nil => rfl
  | cons m ms ih =>
    obtain ⟨bytes, all, flat⟩ := Option.map_eq_some_iff.mp
      (ih fun m hm => fit m (List.mem_cons_of_mem _ hm))
    simp only [enviadas, List.mapM_cons, enviar_enSocket (fit m List.mem_cons_self), all,
      Option.bind_eq_bind, Option.bind_some, Option.pure_def, Option.map_some, List.flatten_cons,
      List.flatMap_cons, flat]

/-- In every run of the Master, whatever the Workers report and in whatever order the threads
    take their steps, each Query Control can read every response: its screen shows those READs,
    in their order, that come before the first response that ends the query, then that one. -/
theorem respuestas_en_pantalla (config : Config) (es : List Evento)
    (validos : ∀ e ∈ es, EventoValido e) (q : Int)
    (fit : ∀ m ∈ respuestasA config es q, CabePaquete m) :
    ∃ socket, enviadas (respuestasA config es q) = some socket ∧
      ∀ turnos, (respuestasA config es q).length < turnos →
        procesarRespuestasMaster turnos socket =
          some (pantalla (respuestasA config es q),
            (sobrantes (respuestasA config es q)).flatMap enSocket) := by
  have legibles : QueryLegible ((correr config masterInicial es).queries q) :=
    (correr_legible config es validos masterInicial_legible).2 q
  exact ⟨_, enviadas_enSocket _ fit, procesarRespuestasMaster_pantalla _ legibles fit⟩

def conUnaLectura : List Evento :=
  [.conectaWorker 1, .despacho 0, .despacho 0, .llega "q" 0 0, .consulta 0, .consulta 0,
    .consulta 0] ++ List.replicate 6 (.despacho 0) ++
    [.despacho 0, .reporta 0 ⟨.workerReadResult,
      [.entero 0, .texto "hola", .texto "f", .texto "t", .entero 1]⟩, .despacho 0,
    .reporta 0 ⟨.workerQueryEnd, [.entero 0, .texto "fin"]⟩, .despacho 0, .despacho 0]

theorem respuestas_en_pantalla_una_lectura :
    ∃ socket, enviadas (respuestasA ⟨.fifo, 0⟩ conUnaLectura 0) = some socket ∧
      procesarRespuestasMaster 3 socket = some ([lecturaRealizada "f" "t" "hola",
        colorVerde ++ "## Query Finalizada - Query Finalizada Con Éxito" ++ colorVerde], []) := by
  have sent : respuestasA ⟨.fifo, 0⟩ conUnaLectura 0 =
      [⟨.queryResponseRead, [.texto "f", .texto "t", .texto "hola"]⟩,
        ⟨.queryResponseEnd, [.texto "Finalizacion Hardcodeada"]⟩] := by decide
  have validos : ∀ e ∈ conUnaLectura, EventoValido e :=
    @of_decide_eq_true _ (List.decidableBAll _ conUnaLectura) rfl
  obtain ⟨socket, out, shown⟩ :=
    respuestas_en_pantalla ⟨.fifo, 0⟩ conUnaLectura validos 0 (by rw [sent]; decide)
  refine ⟨socket, out, ?_⟩
  have screen := shown 3 (by rw [sent]; decide)
  rwa [sent] at screen

end QueryControl
