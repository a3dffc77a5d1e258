import MasterOfFiles.Worker.Llamadas

/-!
The instructions of a Worker and the thread of Storage that attends it, on one connection. The
requests come from five functions and the replies are read in four others; on every path each
request is followed by the reading of its reply, until an access with a negative offset writes
over mem->socket_storage.
-/
namespace WorkerEnPaso
open StorageEstado Solicitudes Dialogue WorkerEntradas WorkerRepresentacion WorkerLlamadas Relation
open WorkerMemoria (Algoritmo ConfigMemoria cadena)

variable {cfg : ConfigMemoria} {mc : Malloc} {mem : MemoriaInterna} {tamanioBloque : Nat}
  {q : Mensaje} {queryId k : Int} {f : ArchivoTag} {numPagina : Nat}

inductive Instruccion where
  | create (f : ArchivoTag)
  | truncate (f : ArchivoTag) (tamanio : Int)
  | write (f : ArchivoTag) (direccionBase : Int) (contenido : Bytes)
  | read (f : ArchivoTag) (direccionBase : Int) (tamanio : Int)
  | tag (origen destino : ArchivoTag)
  | commit (f : ArchivoTag)
  | flush (f : ArchivoTag)
  | delete (f : ArchivoTag)

def Instruccion.Natural : Instruccion → Prop
  | .write _ direccionBase _ | .read _ direccionBase _ => 0 ≤ direccionBase
  | _ => True

/-- The codes after which rtas_storage sets error_storage. -/
def esError : CodigoOp → Bool
  | .storageSendErrorCreateFile | .storageSendErrorTruncate | .storageSendErrorWriteBlock
  | .storageSendErrorReadBlock | .storageSendErrorTag | .storageSendErrorCommit
  | .storageSendErrorDelete | .storageSendErrorFlush => true
  | _ => false

/-- Whether error_storage is set. -/
def rtasStorage : ConStorage Bool := .receive fun r => .done (esError r.codigo)

/-- What create, truncate, tag, commit and delete have in common. -/
def pedir (paquete : Mensaje) : ConStorage Bool := .send paquete rtasStorage

variable (cfg mc) in
def executeFlush (mem : MemoriaInterna) (queryId : Int) (f : ArchivoTag) :
    ConStorage (MemoriaInterna × Bool) := do
  let mem ← flushPaginasModificadas cfg mem queryId f
  let error ← rtasStorage
  .done (mem, error)

/-- Between two instructions: whether the last one set error_storage, and whether an access left
    its memory. -/
structure EstadoWorker where
  mem : MemoriaInterna
  error : Bool
  fuera : Bool

variable (cfg mc) in
/-- No buffer of a negative size can be allocated for a READ. -/
def execute (mem : MemoriaInterna) (queryId : Int) : Instruccion → ConStorage EstadoWorker
  | .create f => do
    let error ← pedir ⟨.storageCreateFile, [.entero queryId, .texto f.file, .texto f.tag]⟩
    .done ⟨mem, error, false⟩
  | .truncate f tamanio => do
    let error ← pedir ⟨.storageTruncate,
      [.entero queryId, .texto f.file, .texto f.tag, .entero tamanio]⟩
    .done ⟨mem, error, false⟩
  | .write f direccionBase contenido => do
    let texto := cadena contenido
    let acceso ← accederMemoria cfg mc mem queryId f direccionBase texto.length (some texto)
    .done ⟨acceso.mem, !acceso.completo && texto.length != 0, acceso.fuera⟩
  | .read f direccionBase tamanio => do
    let acceso ← accederMemoria cfg mc mem queryId f direccionBase tamanio.toNat none
    .done ⟨acceso.mem, !acceso.completo && tamanio.toNat != 0, acceso.fuera⟩
  | .tag origen destino => do
    let error ← pedir ⟨.storageTag, [.entero queryId, .texto origen.file, .texto origen.tag,
      .texto destino.file, .texto destino.tag]⟩
    .done ⟨mem, error, false⟩
  | .commit f => do
    let (mem, errorFlush) ← executeFlush cfg mem queryId f
    let error ← pedir ⟨.storageCommit, [.entero queryId, .texto f.file, .texto f.tag]⟩
    .done ⟨mem, errorFlush || error, false⟩
  | .flush f => do
    let (mem, error) ← executeFlush cfg mem queryId f
    .done ⟨mem, error, false⟩
  | .delete f => do
    let error ← pedir ⟨.storageDelete, [.entero queryId, .texto f.file, .texto f.tag]⟩
    .done ⟨mem, error, false⟩

def Atiende (tamanioBloque : Nat) (paquete : Mensaje) (respuesta : Option Mensaje) : Prop :=
  ∃ r, rutinaOperaciones tamanioBloque r paquete = respuesta

variable (tamanioBloque) in
abbrev EnPaso {α : Type} (d : ConStorage α) : Prop :=
  Talk.InStep (Atiende tamanioBloque) EsDelTipo none d

theorem atendido (kind : (codigosDe q.codigo).isSome = true) :
    Talk.Answered (Atiende tamanioBloque) EsDelTipo q := by
  intro o outcome
  obtain ⟨r, rfl⟩ := outcome
  exact rutinaOperaciones_delTipo kind

theorem enPaso_pedir (kind : (codigosDe q.codigo).isSome = true) :
    EnPaso tamanioBloque (pedir q) := ⟨atendido kind, fun _ _ => trivial⟩

theorem enPaso_pedir_done {α : Type} (kind : (codigosDe q.codigo).isSome = true)
    (resto : Bool → α) : EnPaso tamanioBloque (pedir q >>= fun error => .done (resto error)) :=
  Talk.inStep_bind (enPaso_pedir kind) fun _ => trivial

theorem enPaso_desalojar (victima : Puntero) (e : EntradaPagina) :
    EnPaso tamanioBloque (desalojar cfg mem queryId victima e) := by
  unfold desalojar
  split
  · exact ⟨atendido rfl, fun _ _ => trivial⟩
  · trivial

theorem enPaso_aplicarLru : EnPaso tamanioBloque (aplicarLru cfg mem queryId) := by
  unfold aplicarLru
  split
  · trivial
  split
  · trivial
  · exact Talk.inStep_bind (enPaso_desalojar _ _) fun _ => trivial

theorem enPaso_aplicarClockM : EnPaso tamanioBloque (aplicarClockM cfg mem queryId) := by
  unfold aplicarClockM
  split
  · trivial
  split
  · trivial
  dsimp only
  split
  · trivial
  split
  · trivial
  · exact Talk.inStep_bind (enPaso_desalojar _ _) fun _ => trivial

theorem enPaso_marcoParaCargar : EnPaso tamanioBloque (marcoParaCargar cfg mem queryId) := by
  unfold marcoParaCargar
  split
  · trivial
  split
  · exact enPaso_aplicarLru
  · exact enPaso_aplicarClockM

theorem enPaso_pedirBloqueStorage : EnPaso tamanioBloque (pedirBloqueStorage queryId f k) :=
  ⟨atendido rfl, fun _ _ => trivial⟩

theorem enPaso_cargarPagina :
    EnPaso tamanioBloque (cargarPagina cfg mc mem queryId f numPagina) := by
  refine Talk.inStep_bind enPaso_marcoParaCargar fun r => ?_
  obtain ⟨_ | m, mem'⟩ := r
  · trivial
  refine Talk.inStep_bind enPaso_pedirBloqueStorage fun bloque => ?_
  cases bloque <;> trivial

theorem enPaso_obtenerPagina :
    EnPaso tamanioBloque (obtenerPagina cfg mc mem queryId f numPagina) := by
  unfold obtenerPagina
  split
  · trivial
  refine Talk.inStep_bind enPaso_cargarPagina fun r => ?_
  obtain ⟨_ | m, mem'⟩ := r <;> trivial

theorem enPaso_pedirPagina (pagina : Int) :
    EnPaso tamanioBloque (pedirPagina cfg mc mem queryId f pagina) := by
  unfold pedirPagina
  split
  · exact enPaso_obtenerPagina
  · exact Talk.inStep_bind enPaso_marcoParaCargar fun _ =>
      Talk.inStep_bind enPaso_pedirBloqueStorage fun _ => trivial

theorem enPaso_recorrerPaginas (escritura : Option Bytes) (paginas : Nat) :
    ∀ (actual despl : Int) (restantes procesados : Nat) (leido : Bytes) (mem : MemoriaInterna),
      EnPaso tamanioBloque (recorrerPaginas cfg mc queryId f escritura paginas actual despl
        restantes procesados leido mem) := by
  induction paginas with
  | zero => exact fun _ _ _ _ _ _ => trivial
  | succ paginas ih =>
    intro actual despl restantes procesados leido mem
    unfold recorrerPaginas
    split
    · trivial
    refine Talk.inStep_bind (enPaso_pedirPagina actual) fun r => ?_
    obtain ⟨entrada, mem'⟩ := r
    dsimp only
    split
    · trivial
    split
    · trivial
    cases escritura with
    | none => exact ih _ _ _ _ _ _
    | some contenido => exact ih _ _ _ _ _ _

theorem enPaso_accederMemoria (offset : Int) (tam : Nat) (escritura : Option Bytes) :
    EnPaso tamanioBloque (accederMemoria cfg mc mem queryId f offset tam escritura) := by
  unfold accederMemoria
  split
  · trivial
  · exact enPaso_recorrerPaginas _ _ _ _ _ _ _ _

theorem enPaso_executeFlush : EnPaso tamanioBloque (executeFlush cfg mem queryId f) :=
  ⟨atendido rfl, fun _ _ => trivial⟩

theorem enPaso_execute (i : Instruccion) :
    EnPaso tamanioBloque (execute cfg mc mem queryId i) := by
  cases i with
  | create f => exact enPaso_pedir_done rfl _
  | truncate f tamanio => exact enPaso_pedir_done rfl _
  | write f base contenido =>
    exact Talk.inStep_bind (enPaso_accederMemoria _ _ _) fun _ => trivial
  | read f base tamanio =>
    exact Talk.inStep_bind (enPaso_accederMemoria _ _ _) fun _ => trivial
  | tag origen destino => exact enPaso_pedir_done rfl _
  | commit f => exact Talk.inStep_bind enPaso_executeFlush fun r => enPaso_pedir_done rfl _
  | flush f => exact Talk.inStep_bind enPaso_executeFlush fun _ => trivial
  | delete f => exact enPaso_pedir_done rfl _

def Sano (cfg : ConfigMemoria) (estado : EstadoWorker) : Prop :=
  Representacion cfg estado.mem ∧ estado.fuera = false

theorem sano_execute (rep : Representacion cfg mem) (queryId : Int) {i : Instruccion}
    (natural : i.Natural) : (execute cfg mc mem queryId i).Ensures (Sano cfg) := by
  have any {d : ConStorage Bool} : d.Ensures fun _ => True :=
    Talk.ensures_iff.mpr fun _ _ => trivial
  have flushed (f : ArchivoTag) :
      (executeFlush cfg mem queryId f).Ensures fun r => Representacion cfg r.1 :=
    fun _ => representacion_armarFlush rep queryId f
  cases i with
  | create | truncate | tag | delete => exact Talk.ensures_bind any fun _ _ => ⟨rep, rfl⟩
  | write f base contenido =>
    exact Talk.ensures_bind (accederMemoria_spec rep queryId f natural _ _) fun _ kept => kept
  | read f base tamanio =>
    exact Talk.ensures_bind (accederMemoria_spec rep queryId f natural _ _) fun _ kept => kept
  | flush f => exact Talk.ensures_bind (flushed f) fun _ rep => ⟨rep, rfl⟩
  | commit f =>
    exact Talk.ensures_bind (flushed f) fun _ rep => Talk.ensures_bind any fun _ _ => ⟨rep, rfl⟩

/-- A Worker between two instructions goes on with any of these, of any query. When an access
    left its memory, what it does next is undefined. -/
def Sigue (permitida : Instruccion → Prop) (cfg : ConfigMemoria) (mc : Malloc)
    (estado : EstadoWorker) (d : ConStorage EstadoWorker) : Prop :=
  estado.fuera = true ∨ ∃ queryId i, permitida i ∧ d = execute cfg mc estado.mem queryId i

abbrev Conexion := Wire Mensaje Mensaje EstadoWorker

def workerNuevo (cfg : ConfigMemoria) : Conexion := Wire.idle ⟨crearMemoria cfg, false, false⟩

abbrev PasoDeConexion (permitida : Instruccion → Prop) (cfg : ConfigMemoria) (mc : Malloc)
    (tamanioBloque : Nat) : Conexion → Conexion → Prop :=
  Wire.Step (Atiende tamanioBloque) (Sigue permitida cfg mc)

/-- At most one request is pending, the replies are those of the requests in their order, the one
    that is read next is of the kind of the last request, and a Worker that waits gets a reply. -/
structure Acompasada (permitida : Instruccion → Prop) (cfg : ConfigMemoria) (mc : Malloc)
    (tamanioBloque : Nat) (w : Conexion) : Prop where
  una : w.pending ≤ 1
  enOrden : ∃ atendidos resto, w.sent = atendidos ++ resto ∧ resto.length = w.unanswered ∧
    List.Forall₂ EsDelTipo atendidos w.replied
  suya : ∀ respuesta resto, w.toClient = respuesta :: resto →
    ∃ pedido, w.sent.getLast? = some pedido ∧ EsDelTipo pedido respuesta
  llega : ∀ next, w.client = .receive next → ∃ w' respuesta,
    ReflTransGen (PasoDeConexion permitida cfg mc tamanioBloque) w w' ∧
      w'.client = next respuesta ∧ w'.pending = 0

/-- Two WRITEs of query 7 with one frame for both pages, and COMMIT, with the replies of Storage:
    a page fault, a page fault after the FLUSH of the victim, and both exchanges of COMMIT. -/
def desalojoYCommit (mc : Malloc) :
    List ((EstadoWorker → ConStorage EstadoWorker) × List Mensaje) :=
  [(fun e => execute unaPagina mc e.mem 7 (.write aUno 0 [120]),
      [⟨.storageSendOkReadBlock, [.bloque [48]]⟩]),
    (fun e => execute unaPagina mc e.mem 7 (.write aUno 1 [121]),
      [⟨.storageSendOkFlush, []⟩, ⟨.storageSendOkReadBlock, [.bloque [48]]⟩]),
    (fun e => execute unaPagina mc e.mem 7 (.commit aUno),
      [⟨.storageSendOkFlush, []⟩, ⟨.storageSendOkCommit, []⟩])]

def hecho (q r : Mensaje) : Prop := rutinaOperaciones 1 ⟨true, [48]⟩ q = some r

/-- WRITE A:1 -40 of 41 characters: socket_storage is 40 bytes before memory_arena. What is asked
    next goes to no Storage. -/
def escrituraSobreElSocket : Instruccion := .write aUno (-40) (List.replicate 41 120)

end WorkerEnPaso
