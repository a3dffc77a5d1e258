import MasterOfFiles.Lib.GuardedRuns
import MasterOfFiles.Storage.Pedidos
import MasterOfFiles.Worker.Recorridos

/-!
WRITE, READ, FLUSH and COMMIT over a Storage that may answer any STORAGE_FLUSH with an error
and keep its old blocks. flush_paginas_modificadas resets the flags of the pages it sends
before anyone reads the reply, so what a rejected packet carried is nowhere marked as pending.
Offsets are not negative here.
-/
namespace WorkerAcuses
open StorageEstado StorageEscritura StoragePedidos WorkerMemoria WorkerPaginas WorkerReemplazo
open WorkerCoherencia WorkerAccesos WorkerRecorridos WriteBack GuardedRuns

/-- respuestas: the replies to the next STORAGE_FLUSH packets; all are accepted after them. -/
structure Almacen where
  bloques : FileTag → Int → Option Bytes
  respuestas : List Bool

def guardarPaginas (bloques : FileTag → Int → Option Bytes) (f : FileTag) (ps : List Pagina) :
    FileTag → Int → Option Bytes :=
  ps.foldl (fun bs p => Function.update bs f (Function.update (bs f) p.1 (some p.2))) bloques

def almacenFlush (s : Almacen) (f : FileTag) (ps : List Pagina) : Bool × Almacen :=
  if s.respuestas.headD true then (true, ⟨guardarPaginas s.bloques f ps, s.respuestas.tail⟩)
  else (false, { s with respuestas := s.respuestas.tail })

def almacen : Servidor Almacen where
  leerBloque := fun s f k => s.bloques f k
  flush := fun s f ps _ => almacenFlush s f ps

inductive Instruccion where
  | write (f : Archivo) (direccionBase : Nat) (contenido : Bytes)
  | read (f : Archivo) (direccionBase : Nat) (tamanio : Int)
  | flush (f : Archivo)
  | commit (f : Archivo)

structure Evento where
  instruccion : Instruccion
  respuestas : List Bool

/-- escritos: the last byte that a WRITE stored at each offset, also one that failed later. -/
structure Corrida where
  nodo : Nodo Almacen
  escritos : Plano

def inicial (cfg : ConfigMemoria) (bloques : FileTag → Int → Option Bytes) : Corrida :=
  ⟨⟨crearMemoria cfg, ⟨bloques, []⟩, []⟩, fun _ _ => none⟩

/-- STORAGE_COMMIT follows the flush of a COMMIT and changes no contents. -/
def paso (cfg : ConfigMemoria) (c : Corrida) (e : Evento) : Corrida :=
  let n := { c.nodo with storage := { c.nodo.storage with respuestas := e.respuestas } }
  match e.instruccion with
  | .write f base contenido =>
    let r := executeWrite almacen cfg n f base contenido
    ⟨r.nodo, sobrescribir c.escritos f base ((cadena contenido).take r.procesados)⟩
  | .read f base tamanio => ⟨(executeRead almacen cfg n f base tamanio).nodo, c.escritos⟩
  | .flush f | .commit f => ⟨executeFlush almacen cfg n f, c.escritos⟩

/-- What a WRITE stored is in a page marked modified or in the block of Storage. -/
def Conservado (cfg : ConfigMemoria) (c : Corrida) : Prop :=
  ∀ f i b, c.escritos f i = some b →
    (∃ pagina, paginas c.nodo.mem (f, i / cfg.tamanioPagina) = some ⟨pagina, true⟩ ∧
      pagina[i % cfg.tamanioPagina]? = some b) ∨
    ∃ bloque, c.nodo.storage.bloques f.val (i / cfg.tamanioPagina : Nat) = some bloque ∧
      bloque[i % cfg.tamanioPagina]? = some b

def hayModificadas (mem : Memoria) (f : Archivo) : Bool :=
  (mem.tablasPaginas (claveFileTag f)).any fun m => (mem.marcos m).any fun e => e.modificada

/-- No STORAGE_FLUSH with pages in it gets an error; a victim always has its own page to send. -/
def SinRechazo (c : Corrida) (e : Evento) : Prop :=
  match e.instruccion with
  | .write _ _ _ | .read _ _ _ => ∀ r ∈ e.respuestas, r = true
  | .flush f | .commit f => hayModificadas c.nodo.mem f = true → e.respuestas.headD true = true

instance (c : Corrida) : ∀ e, Decidable (SinRechazo c e)
  | ⟨.write _ _ _, respuestas⟩ => inferInstanceAs (Decidable (∀ r ∈ respuestas, r = true))
  | ⟨.read _ _ _, respuestas⟩ => inferInstanceAs (Decidable (∀ r ∈ respuestas, r = true))
  | ⟨.flush f, _⟩ => inferInstanceAs (Decidable (hayModificadas c.nodo.mem f = true → _ = true))
  | ⟨.commit f, _⟩ => inferInstanceAs (Decidable (hayModificadas c.nodo.mem f = true → _ = true))

variable {cfg : ConfigMemoria} {c : Corrida} {s : Almacen} {n n' : Nodo Almacen} {f : Archivo}

def BloquesEnteros (cfg : ConfigMemoria) (s : Almacen) : Prop :=
  ∀ f k bloque, s.bloques f k = some bloque → bloque.length = cfg.tamanioPagina

theorem guardarPaginas_guardado (f : FileTag) (ps : List Pagina) :
    ∀ bs : FileTag → Int → Option Bytes, (ps.Pairwise fun p q => p.1 ≠ q.1) →
      (∀ p ∈ ps, guardarPaginas bs f ps f p.1 = some p.2) ∧
      ∀ g k, (g ≠ f ∨ ∀ p ∈ ps, p.1 ≠ k) → guardarPaginas bs f ps g k = bs g k := by
  induction ps with
  | nil => intro bs _; simp [guardarPaginas]
  | cons p rest ih =>
    intro bs distinct
    obtain ⟨fresh, distinct⟩ := List.pairwise_cons.mp distinct
    obtain ⟨written, others⟩ :=
      ih (Function.update bs f (Function.update (bs f) p.1 (some p.2))) distinct
    constructor
    · intro q hq
      rcases List.mem_cons.mp hq with rfl | hq
      · refine (others f q.1 (.inr fun o ho => (fresh o ho).symm)).trans ?_
        simp
      · exact written q hq
    · intro g k away
      refine (others g k (away.imp_right fun h o ho => h o (List.mem_cons_of_mem p ho))).trans ?_
      by_cases hg : g = f
      · subst hg
        have hk : k ≠ p.1 := ((away.resolve_left fun h => h rfl) p (by simp)).symm
        simp [hk]
      · simp [hg]

theorem almacen_fiel (cfg : ConfigMemoria) : Fiel almacen cfg (BloquesEnteros cfg) := by
  refine ⟨fun s f k bloque good => good f k bloque, fun s f ps good lote accepted => ?_⟩
  simp only [almacen, almacenFlush] at accepted ⊢
  obtain ⟨written, others⟩ := guardarPaginas_guardado f ps s.bloques lote.distintas
  by_cases ok : s.respuestas.headD true = true
  · rw [if_pos ok]
    refine ⟨fun g k bloque h => ?_, written, others⟩
    dsimp only at h
    by_cases here : g = f ∧ ∃ p ∈ ps, p.1 = k
    · obtain ⟨rfl, p, hp, rfl⟩ := here
      rw [written p hp, Option.some.injEq] at h
      rw [← h]
      exact lote.largo p hp
    · refine good g k bloque ((others g k ?_).symm.trans h)
      by_cases hg : g = f
      · exact .inr fun p hp hk => here ⟨hg, p, hp, hk⟩
      · exact .inl hg
  · rw [if_neg ok] at accepted ⊢
    have empty : ps = [] := accepted.resolve_left (by simp)
    refine ⟨good, ?_, fun _ _ _ => rfl⟩
    simp [empty]

def TodasOk (s : Almacen) : Prop := ∀ r ∈ s.respuestas, r = true

theorem almacen_acepta (s : Almacen) (f : FileTag) (ps : List Pagina) (ok : TodasOk s) :
    (almacen.flush s f ps ps.length).1 = true ∧ TodasOk (almacen.flush s f ps ps.length).2 := by
  simp only [almacen, almacenFlush]
  cases hr : s.respuestas with
  | nil => exact ⟨rfl, by simp [TodasOk]⟩
  | cons r rest =>
    have first : r = true := ok r (by simp [hr])
    simp only [List.headD_cons, first, if_true, List.tail_cons]
    exact ⟨trivial, fun r' hr' => ok r' (by rw [hr]; exact List.mem_cons_of_mem r hr')⟩

structure Vigente (cfg : ConfigMemoria) (c : Corrida) : Prop where
  firme : Firme almacen cfg (BloquesEnteros cfg) c.nodo
  dia : LruAlDia cfg c.nodo.mem
  entera : SinPerdida c.nodo
  vistos : ∀ f i b, c.escritos f i = some b → byteEn almacen cfg c.nodo f i = some b

theorem conservado_of_vigente (vigente : Vigente cfg c) : Conservado cfg c := by
  intro f i b hb
  have seen := vigente.vistos f i b hb
  simp only [byteEn, Option.bind_eq_some_iff] at seen
  obtain ⟨pagina, hv, byte⟩ := seen
  simp only [vista, view] at hv
  cases hc : paginas c.nodo.mem (f, i / cfg.tamanioPagina) with
  | none =>
    rw [hc] at hv
    exact .inr ⟨pagina, hv, byte⟩
  | some line =>
    obtain ⟨value, dirty⟩ := line
    rw [hc, Option.some.injEq] at hv
    subst hv
    cases dirty with
    | true => exact .inl ⟨_, rfl, byte⟩
    | false => exact .inr ⟨_, vigente.firme.coherente _ _ hc rfl, byte⟩

theorem vigente_respuestas (vigente : Vigente cfg c) (respuestas : List Bool) :
    let n := { c.nodo with storage := { c.nodo.storage with respuestas := respuestas } }
    Firme almacen cfg (BloquesEnteros cfg) n ∧ SinPerdida n ∧
      byteEn almacen cfg n = byteEn almacen cfg c.nodo :=
  ⟨⟨vigente.firme.ordenada, vigente.firme.largas, vigente.firme.bueno, vigente.firme.coherente,
    vigente.firme.respaldada⟩, vigente.entera, rfl⟩

theorem sinPerdida_acceso (moves : Movimientos almacen cfg n n') (ok : TodasOk n.storage)
    (whole : SinPerdida n) : SinPerdida n' := by
  obtain ⟨same, _⟩ := movimientos_aceptados almacen_acepta moves ok
  unfold SinPerdida
  rw [same]
  exact whole

theorem paquete_vacio (ord : Ordenada cfg n.mem) (none_ : hayModificadas n.mem f = false) :
    (paginasModificadas cfg n.mem f).2 = [] := by
  rw [List.eq_nil_iff_forall_not_mem]
  intro p hp
  obtain ⟨k, b, rfl, page⟩ := (mem_paquete ord).mp hp
  obtain ⟨m, e, he, rfl, _, line⟩ := (paginas_some ord).mp page
  simp only [Line.mk.injEq] at line
  have listed := (ord.tabla (claveFileTag e.archivo) m).mpr ⟨e, he, rfl⟩
  have quiet := List.any_eq_false.mp none_ m listed
  simp [he, ← line.2] at quiet

theorem sinPerdida_flush (ord : Ordenada cfg n.mem) (whole : SinPerdida n)
    (guard : hayModificadas n.mem f = true → n.storage.respuestas.headD true = true) :
    SinPerdida (executeFlush almacen cfg n f) := by
  intro r hr
  simp only [executeFlush, flushPaginasModificadas, almacen, almacenFlush] at hr
  by_cases ok : n.storage.respuestas.headD true = true
  · simp only [ok, if_true] at hr
    exact whole r hr
  · have none_ : hayModificadas n.mem f = false := by
      cases h : hayModificadas n.mem f with
      | false => rfl
      | true => exact (ok (guard h)).elim
    simp only [if_neg ok, Bool.false_eq_true, if_false, List.mem_append, List.mem_singleton] at hr
    rcases hr with hr | rfl
    · exact whole r hr
    · exact paquete_vacio ord none_

theorem vigente_flush (vigente : Vigente cfg c) (f : Archivo) (respuestas : List Bool)
    (guard : hayModificadas c.nodo.mem f = true → respuestas.headD true = true) :
    Vigente cfg ⟨executeFlush almacen cfg
      { c.nodo with storage := { c.nodo.storage with respuestas := respuestas } } f,
      c.escritos⟩ := by
  obtain ⟨firme, whole, seen⟩ := vigente_respuestas vigente respuestas
  have entera := sinPerdida_flush firme.ordenada whole guard
  obtain ⟨firme', same, dia'⟩ :=
    executeFlush_spec (almacen_fiel cfg) firme vigente.dia f entera
  refine ⟨firme', dia', entera, fun g i b hb => ?_⟩
  rw [same, seen]
  exact vigente.vistos g i b hb

theorem vigente_paso (vigente : Vigente cfg c) (e : Evento) (guard : SinRechazo c e) :
    Vigente cfg (paso cfg c e) := by
  obtain ⟨firme, whole, seen⟩ := vigente_respuestas vigente e.respuestas
  obtain ⟨instruccion, respuestas⟩ := e
  cases instruccion with
  | write f base contenido =>
    obtain ⟨moves, _, dia'⟩ := acceder_movimientos almacen firme.ordenada vigente.dia f base
      (cadena contenido).length (some (cadena contenido))
    have entera := sinPerdida_acceso moves guard whole
    obtain ⟨firme', bytes⟩ :=
      executeWrite_spec (almacen_fiel cfg) firme vigente.dia f base contenido entera
    refine ⟨firme', dia', entera, fun g i b hb => ?_⟩
    simp only [paso, sobrescribir] at hb ⊢
    rw [bytes, seen]
    split at hb
    · rename_i inside
      simpa only [sobrescribir, if_pos inside] using hb
    · rename_i outside
      simpa only [sobrescribir, if_neg outside] using vigente.vistos g i b hb
  | read f base tamanio =>
    obtain ⟨moves, _, dia'⟩ := acceder_movimientos almacen firme.ordenada vigente.dia f base
      tamanio.toNat none
    have entera := sinPerdida_acceso moves guard whole
    obtain ⟨firme', same, _⟩ :=
      executeRead_spec (almacen_fiel cfg) firme vigente.dia f base tamanio entera
    refine ⟨firme', dia', entera, fun g i b hb => ?_⟩
    simp only [paso]
    rw [same, seen]
    exact vigente.vistos g i b hb
  | flush f => exact vigente_flush vigente f respuestas guard
  | commit f => exact vigente_flush vigente f respuestas guard

theorem a1_sinDosPuntos : ':' ∉ a1.file.texto.toList := by decide

def archivoA : Archivo := ⟨a1, a1_sinDosPuntos⟩

def unMarco : ConfigMemoria := ⟨1, 1, .lru, Nat.one_pos, Nat.le_refl 1⟩

def dosBloques (f : FileTag) (k : Int) : Option Bytes :=
  if f = archivoA.val ∧ (k = 0 ∨ k = 1) then some [48] else none

theorem dosBloques_enteros : BloquesEnteros unMarco ⟨dosBloques, []⟩ := by
  intro f k bloque h
  simp only [dosBloques, Option.ite_none_right_eq_some, Option.some.injEq] at h
  rw [← h.2]
  rfl

def flushAceptado : List Evento :=
  [⟨.write archivoA 0 [120], []⟩, ⟨.flush archivoA, [true]⟩, ⟨.flush archivoA, [false]⟩,
    ⟨.write archivoA 1 [121], []⟩, ⟨.read archivoA 0 1, [true]⟩]

/-- The page is written, its flush rejected, and then it gives its frame to another page. -/
def flushRechazado : List Evento :=
  [⟨.write archivoA 0 [120], []⟩, ⟨.flush archivoA, [false]⟩, ⟨.read archivoA 1 1, []⟩]

def trasFlushRechazado : Corrida :=
  flushRechazado.foldl (paso unMarco) (inicial unMarco dosBloques)

end WorkerAcuses
