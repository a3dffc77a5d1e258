import MasterOfFiles.Storage.Aislamiento
import MasterOfFiles.Storage.BloqueCero
import MasterOfFiles.Worker.Acuses
import MasterOfFiles.Worker.Vigentes

/-!
What a query is to see of its File:Tags, each as one array of bytes without pages or blocks,
and the Worker that runs it among queries on other File:Tags. Nobody sees more than the view
of the memory the query runs on, so that view is all there is to compare.
-/
namespace WorkerConsultas
open StorageEstado StorageArchivos StorageEscritura StoragePrimitivas StoragePedidos
open StorageDeduplicacion StorageAcuerdo StorageMovidas StorageEfectos StorageContenidos
open StorageVolcados StorageAislamiento StorageBloqueCero LinkDirectory
open WorkerMemoria WorkerPaginas WorkerReemplazo WorkerCoherencia WorkerAccesos WorkerRecorridos
open WorkerEjecucion WorkerVigentes WriteBack
open WorkerAcuses (hayModificadas)

variable {Hash : Type} {sb : Superbloque} {cfg : ConfigMemoria} {n n' : Nodo (Storage Hash)}
  {mem : Memoria} {s s' : Storage Hash} {propios : Archivo → Prop} {p p' : Plano}
  {f g : Archivo} {k : Nat}

def archivos : Instruccion → List Archivo
  | .create f | .truncate f _ | .write f _ _ | .read f _ _ | .commit f | .flush f | .delete f => [f]
  | .tag origen destino => [origen, destino]

/-- READ_BLOCK of physical block 0, which TRUNCATE links new logical blocks to. -/
def bloqueCero (sb : Superbloque) (s : Storage Hash) : Bytes :=
  (s.datos 0).take sb.tamanioBloque ++
    List.replicate (sb.tamanioBloque - ((s.datos 0).take sb.tamanioBloque).length) 0

def trasPlano (sb : Superbloque) (cero : Bytes) (p : Plano) : Instruccion → Plano
  | .create f | .delete f => Function.update p f fun _ => none
  | .truncate f tamanio => Function.update p f fun i =>
    if i / sb.tamanioBloque < sb.bloquesLogicos tamanio then
      (p f i).or cero[i % sb.tamanioBloque]? else none
  | .write f base contenido => sobrescribir p f base (cadena contenido)
  | .tag origen destino => Function.update p destino (p origen)
  | .read _ _ _ | .commit _ | .flush _ => p

def lecturaPlano (p : Plano) : Instruccion → List (Option Bytes)
  | .read f base tamanio =>
    if tamanio.toNat = 0 then [none]
    else [some ((List.range tamanio.toNat).map fun i => (p f (base + i)).getD 0)]
  | _ => []

def lecturasPlano (sb : Superbloque) (cero : Bytes) : Plano → List Instruccion → List (Option Bytes)
  | _, [] => []
  | p, i :: is => lecturaPlano p i ++ lecturasPlano sb cero (trasPlano sb cero p i) is

section Condiciones
variable [DecidableEq Hash] (sb : Superbloque) (md5 : Bytes → Hash) (cfg : ConfigMemoria)

def SinError (n : Nodo (Storage Hash)) (i : Instruccion) : Prop :=
  SinRechazo sb md5 cfg n i ∧
    match i with
    | .create f => (atender sb md5 n.storage (.crear f.val)).1 = true
    | .truncate f tamanio => (atender sb md5 n.storage (.truncar f.val tamanio)).1 = true
    | .write f base contenido =>
      cadena contenido = [] ∨
        (executeWrite (servidorStorage sb) cfg n f base contenido).completo = true
    | .read f base tamanio =>
      tamanio.toNat = 0 ∨ (executeRead (servidorStorage sb) cfg n f base tamanio).completo = true
    | .tag origen destino => (atender sb md5 n.storage (.tag origen.val destino.val)).1 = true
    | .commit f => (atender sb md5 (executeFlush (servidorStorage sb) cfg n f).storage
        (.commit f.val)).1 = true
    | .flush _ => True
    | .delete f => (atender sb md5 n.storage (.eliminar f.val)).1 = true

instance (n : Nodo (Storage Hash)) : ∀ i, Decidable (SinError sb md5 cfg n i)
  | .create _ | .truncate _ _ | .tag _ _ | .commit _ | .delete _ =>
    inferInstanceAs (Decidable (_ ∧ _ = true))
  | .write _ _ _ | .read _ _ _ => inferInstanceAs (Decidable (_ ∧ (_ = _ ∨ _ = true)))
  | .flush _ => inferInstanceAs (Decidable (_ ∧ True))

def CommitConsistente (n : Nodo (Storage Hash)) : Instruccion → Prop
  | .commit f => PedidoConsistente sb md5 (executeFlush (servidorStorage sb) cfg n f).storage
      (.commit f.val)
  | _ => True

instance (n : Nodo (Storage Hash)) : ∀ i, Decidable (CommitConsistente sb md5 cfg n i)
  | .commit _ => inferInstanceAs (Decidable (PedidoConsistente _ _ _ _))
  | .create _ | .truncate _ _ | .write _ _ _ | .read _ _ _ | .tag _ _ | .flush _ | .delete _ =>
    inferInstanceAs (Decidable True)

/-- Storage and the loaded pages stay together: no page is loaded that TRUNCATE or DELETE
    takes away, TAG finds no page of its origin waiting to be written, and COMMIT links the
    logical blocks to the bytes they have. -/
def Fiable (n : Nodo (Storage Hash)) : Instruccion → Prop
  | .truncate f tamanio => marcosDesde n.mem f (sb.bloquesLogicos tamanio) = []
  | .delete f => marcosDesde n.mem f 0 = []
  | .tag origen _ => hayModificadas n.mem origen = false
  | .commit f => ∀ c ∈ (executeFlush (servidorStorage sb) cfg n f).storage.carpetas.lookup f.val,
      c.estado ≠ .commited → ∀ k < c.blocks.length,
        ReemplazoIgual sb md5 (executeFlush (servidorStorage sb) cfg n f).storage c k
  | _ => True

instance (n : Nodo (Storage Hash)) : ∀ i, Decidable (Fiable sb md5 cfg n i)
  | .truncate _ _ | .delete _ | .tag _ _ => inferInstanceAs (Decidable (_ = _))
  | .commit _ => inferInstanceAs (Decidable (∀ c ∈ _, _ → ∀ k < _, _))
  | .create _ | .write _ _ _ | .read _ _ _ | .flush _ => inferInstanceAs (Decidable True)

end Condiciones

def Limpia (propios : Archivo → Prop) (mem : Memoria) : Prop :=
  ∀ f, propios f → ∀ k line, paginas mem (f, k) = some line → line.dirty = false

theorem limpia_iff (ord : Ordenada cfg mem) :
    Limpia propios mem ↔ ∀ f, propios f → hayModificadas mem f = false := by
  constructor
  · intro clean f own
    refine List.any_eq_false.mpr fun m hm => ?_
    obtain ⟨e, he, key⟩ := (ord.tabla (claveFileTag f) m).mp hm
    have page := paginas_of_marco ord he
    rw [claveFileTag_inj key] at page
    simpa [he] using clean f own _ _ page
  · intro quiet f own k line hl
    obtain ⟨m, e, he, rfl, _, rfl⟩ := (paginas_some ord).mp hl
    have listed := (ord.tabla (claveFileTag e.archivo) m).mpr ⟨e, he, rfl⟩
    simpa [he] using List.any_eq_false.mp (quiet e.archivo own) m listed

structure Apartada (sb : Superbloque) (cfg : ConfigMemoria) (propios : Archivo → Prop)
    (n : Nodo (Storage Hash)) : Prop where
  firme : FirmeEn (servidorStorage sb) cfg (Consistente sb) (fun _ => False) n
  limpia : Limpia propios n.mem

def Inocua (sb : Superbloque) (cfg : ConfigMemoria) (propios : Archivo → Prop) (s : Storage Hash)
    (n : Nodo (Storage Hash)) : Prop :=
  SinPerdida n → Apartada sb cfg propios n ∧ ∀ f, propios f → ∀ k,
    bloques (servidorStorage sb) n.storage (f, k) = bloques (servidorStorage sb) s (f, k)

theorem inocua_paso (size : cfg.tamanioPagina = sb.tamanioBloque)
    (step : Paso (servidorStorage sb) cfg n n') (h : Inocua sb cfg propios s n) :
    Inocua sb cfg propios s n' := by
  intro whole
  obtain ⟨⟨firme, clean⟩, same⟩ := h (sinPerdida_antes (paso_rechazados step) whole)
  have ord := firme.ordenada
  have fiel := storage_fiel Hash size
  refine ⟨⟨(pasos_firme fiel (.single step) whole firme).1, ?_⟩, ?_⟩
  · intro f own k line hl
    cases step with
    | orden mem equal =>
      rw [paginas_mismas equal] at hl
      exact clean f own k line hl
    | flush g =>
      rw [flush_mem, paginas_modificadas ord g, cleaned] at hl
      split at hl
      · obtain ⟨old, _, rfl⟩ := Option.map_eq_some_iff.mp hl
        rfl
      · exact clean f own k line hl
    | libera m e he _ =>
      rw [paginas_liberarMarco ord he] at hl
      by_cases hq : (f, k) = (e.archivo, e.numeroPagina)
      · simp [hq] at hl
      · rw [Function.update_of_ne hq] at hl
        exact clean f own k line hl
    | carga m g i bloque libre hm absent hb =>
      rw [paginas_registrar ord libre hm absent] at hl
      by_cases hq : (f, k) = (g, i)
      · rw [hq, Function.update_self, Option.some.injEq] at hl
        rw [← hl]
      · rw [Function.update_of_ne hq] at hl
        exact clean f own k line hl
  · intro f own k
    rw [← same f own k]
    cases step with
    | flush g =>
      obtain ⟨_, saved⟩ := fiel.guarda n.storage g.val _ firme.bueno
        (lote_paquete ord firme.largas) (flush_acepta (servidorStorage sb) whole)
      refine (congrFun (bloques_guardado ord saved) (f, k)).trans ?_
      cases hc : paginas n.mem (f, k) with
      | none => simp [stored, hc]
      | some line =>
        obtain ⟨b, dirty⟩ := line
        cases clean f own k _ hc
        simp [stored, hc]
    | orden | libera | carga => rfl

theorem inocua_escribe {m : Nat} {e : EntradaPagina} {despl : Nat} {parcial : Bytes}
    (he : n.mem.marcos m = some e) (foreign : ¬ propios e.archivo)
    (fits : despl + parcial.length ≤ cfg.tamanioPagina) (h : Inocua sb cfg propios s n) :
    Inocua sb cfg propios s { n with mem := escribirPagina cfg n.mem m despl parcial } := by
  intro whole
  obtain ⟨⟨firme, clean⟩, same⟩ := h whole
  refine ⟨⟨(firme_escribir firme he fits).1, ?_⟩, same⟩
  intro f own k line hl
  have other : (f, k) ≠ (e.archivo, e.numeroPagina) := by
    intro equal
    rw [(Prod.mk.inj equal).1] at own
    exact foreign own
  rw [paginas_escribir firme.ordenada he, Function.update_of_ne other] at hl
  exact clean f own k line hl

/-- The memory and its Storage show the query the arrays of `p`. -/
structure Muestra (sb : Superbloque) (cfg : ConfigMemoria) (propios : Archivo → Prop)
    (cero : Bytes) (n : Nodo (Storage Hash)) (p : Plano) : Prop where
  firme : FirmeEn (servidorStorage sb) cfg (Consistente sb) propios n
  dia : LruAlDia cfg n.mem
  ninguno : n.rechazados = []
  cero : bloqueCero sb n.storage = cero
  bytes : ∀ f, propios f → byteEn (servidorStorage sb) cfg n f = p f

variable {cero : Bytes}

theorem apartada_storage (h : Apartada sb cfg propios n) (mismas : n'.mem = n.mem)
    (good : Consistente sb n'.storage) : Apartada sb cfg propios n' := by
  obtain ⟨firme, clean⟩ := h
  refine ⟨⟨?_, ?_, good, fun _ nobody => nobody.elim, fun _ nobody => nobody.elim⟩, ?_⟩
  · rw [mismas]
    exact firme.ordenada
  · rw [mismas]
    exact firme.largas
  · rw [mismas]
    exact clean

theorem muestra_storage (h : Muestra sb cfg propios cero n p) (mismas : n'.mem = n.mem)
    (good : Consistente sb n'.storage) (ninguno : n'.rechazados = [])
    (zeros : bloqueCero sb n'.storage = cero)
    (same : ∀ f, propios f → ∀ k, bloques (servidorStorage sb) n'.storage (f, k) =
      bloques (servidorStorage sb) n.storage (f, k)) :
    Muestra sb cfg propios cero n' p := by
  refine ⟨⟨?_, ?_, good, ?_, ?_⟩, ?_, ninguno, zeros, ?_⟩
  · rw [mismas]
    exact h.firme.ordenada
  · rw [mismas]
    exact h.firme.largas
  · intro f own k line hl clean
    rw [mismas] at hl
    rw [same f own k]
    exact h.firme.coherente f own k line hl clean
  · intro f own k line hl
    rw [mismas] at hl
    rw [same f own k]
    exact h.firme.respaldada f own k line hl
  · rw [mismas]
    exact h.dia
  · intro f own
    rw [← h.bytes f own]
    funext j
    simp only [byteEn, vista, view, mismas, same f own]

theorem muestra_relevo {cfg' : ConfigMemoria} (pages : cfg'.tamanioPagina = cfg.tamanioPagina)
    (h : Muestra sb cfg propios cero n p) (left : Limpia propios n.mem)
    (arrives : Apartada sb cfg' propios n') (dia : LruAlDia cfg' n'.mem)
    (sameStorage : n'.storage = n.storage) (ninguno : n'.rechazados = [])
    (current : ∀ f, propios f → ∀ k line, paginas n'.mem (f, k) = some line →
      bloques (servidorStorage sb) n'.storage (f, k) = some line.value) :
    Muestra sb cfg' propios cero n' p := by
  have coherent : ∀ f, propios f → ∀ k,
      CoherentAt (bloques (servidorStorage sb) n'.storage) (paginas n'.mem) (f, k) :=
    fun f own k line hl _ => current f own k line hl
  refine ⟨⟨arrives.firme.ordenada, arrives.firme.largas, arrives.firme.bueno, coherent, ?_⟩, dia,
    ninguno, by rw [sameStorage]; exact h.cero, ?_⟩
  · intro f own k line hl
    rw [current f own k line hl]
    rfl
  · intro f own
    rw [← h.bytes f own]
    funext j
    simp only [byteEn, pages]
    congr 1
    rw [vista, vista, view_clean (coherent f own _) (arrives.limpia f own _),
      view_clean (h.firme.coherente f own _) (left f own _), sameStorage]

theorem byteEn_nada (noPage : ∀ k, paginas n.mem (f, k) = none)
    (noBlock : ∀ k : Nat, leerBloque sb n.storage f.val k = none) :
    byteEn (servidorStorage sb) cfg n f = fun _ => none := by
  funext i
  simp only [byteEn, vista, view, noPage, bloques, servidorStorage, noBlock, Option.bind_none]

theorem leerBloque_none (outside : ∀ c, s.carpetas.lookup f.val = some c → ¬ EnRango sb c k) :
    leerBloque sb s f.val k = none := by
  cases hb : leerBloque sb s f.val k with
  | none => rfl
  | some bloque =>
    obtain ⟨c, hc, inside⟩ := leerBloque_rango (Option.isSome_iff_exists.mpr ⟨bloque, hb⟩)
    exact absurd inside (outside c hc)

theorem sin_paginas (h : FirmeEn (servidorStorage sb) cfg (Consistente sb) propios n)
    (own : propios f) (absent : n.storage.carpetas.lookup f.val = none) (k : Nat) :
    paginas n.mem (f, k) = none := by
  cases hp : paginas n.mem (f, k) with
  | none => rfl
  | some line =>
    obtain ⟨c, hc, _⟩ := leerBloque_rango (h.respaldada f own k line hp)
    rw [absent] at hc
    contradiction

theorem vista_length (h : FirmeEn (servidorStorage sb) cfg (Consistente sb) propios n)
    (size : cfg.tamanioPagina = sb.tamanioBloque) {pagina : Bytes}
    (hv : vista (servidorStorage sb) n (f, k) = some pagina) :
    pagina.length = sb.tamanioBloque := by
  simp only [vista, view] at hv
  cases hp : paginas n.mem (f, k) with
  | none =>
    rw [hp] at hv
    exact leerBloque_length hv
  | some line =>
    rw [hp, Option.some.injEq] at hv
    rw [← hv]
    exact (h.largas _ line hp).trans size

variable [DecidableEq Hash] {md5 : Bytes → Hash}

def ConCero (sb : Superbloque) (cero : Bytes) (n : Nodo (Storage Hash)) : Prop :=
  Sano sb n.storage ∧ bloqueCero sb n.storage = cero

theorem conCero_pedido (md5 : Bytes → Hash) (pedido : Pedido) (sano : Sano sb s)
    (zeros : bloqueCero sb s = cero) :
    Sano sb (trasPedido sb md5 s pedido) ∧ bloqueCero sb (trasPedido sb md5 s pedido) = cero := by
  refine ⟨sano_trasPedido pedido sano, ?_⟩
  rw [← zeros, bloqueCero, datos_cero md5 pedido sano]
  rfl

theorem conCero_paso (md5 : Bytes → Hash)
    (step : Paso (servidorStorage sb) cfg n n') (h : ConCero sb cero n) : ConCero sb cero n' := by
  cases step with
  | flush f =>
    exact conCero_pedido md5 (.flush f.val (paginasModificadas cfg n.mem f).2
      (paginasModificadas cfg n.mem f).2.length) h.1 h.2
  | orden | libera | carga => exact h

theorem byteEn_pedir_otro (h : Consistente sb n.storage) (pedido : Pedido)
    (other : g.val ≠ pedido.objetivo) :
    byteEn (servidorStorage sb) cfg (pedir sb md5 n pedido) g =
      byteEn (servidorStorage sb) cfg n g := by
  obtain ⟨_, read⟩ := otro_objetivo_leerBloque md5 h.sano h.uso other
  funext i
  simp only [byteEn, vista, view, pedir, bloques, servidorStorage, read]

def Ajena (propios : Archivo → Prop) (i : Instruccion) : Prop := ∀ f ∈ archivos i, ¬ propios f

theorem otro_de_ajena {i : Instruccion} (foreign : Ajena propios i) (hg : g ∈ archivos i)
    (own : propios f) : f.val ≠ g.val := by
  intro same
  rw [Subtype.ext same] at own
  exact foreign g hg own

theorem conCero_ejecutar (md5 : Bytes → Hash) (ord : Ordenada cfg n.mem) (dia : LruAlDia cfg n.mem)
    (h : ConCero sb cero n) (i : Instruccion) : ConCero sb cero (ejecutar sb md5 cfg n i) := by
  have pasa : ∀ n n', Ordenada cfg n.mem → ConCero sb cero n →
      Paso (servidorStorage sb) cfg n n' → ConCero sb cero n' :=
    fun _ _ _ kept step => conCero_paso md5 step kept
  have pide : ∀ {n : Nodo (Storage Hash)} (pedido : Pedido), ConCero sb cero n →
      ConCero sb cero (pedir sb md5 n pedido) :=
    fun pedido kept => conCero_pedido md5 pedido kept.1 kept.2
  cases i with
  | create f => exact pide _ h
  | truncate f tamanio => exact pide _ h
  | tag origen destino => exact pide _ h
  | delete f => exact pide _ h
  | flush f => exact conCero_paso md5 (.flush n f) h
  | commit f => exact pide _ (conCero_paso md5 (.flush n f) h)
  | write f base contenido =>
    exact (acceder_invariante f _ pasa (fun _ _ _ _ _ _ _ _ _ kept => kept) ord dia _ _ h).1
  | read f base tamanio =>
    exact (acceder_invariante f _ pasa (fun _ _ _ _ _ _ _ _ _ kept => kept) ord dia _ _ h).1

theorem lruAlDia_ejecutar (sb : Superbloque) (md5 : Bytes → Hash) (ord : Ordenada cfg n.mem)
    (dia : LruAlDia cfg n.mem) (i : Instruccion) : LruAlDia cfg (ejecutar sb md5 cfg n i).mem := by
  cases i with
  | flush f => exact lruAlDia_flush (servidorStorage sb) ord dia f
  | commit f => exact lruAlDia_flush (servidorStorage sb) ord dia f
  | write f base contenido => exact (acceder_movimientos (servidorStorage sb) ord dia f _ _ _).2.2
  | read f base tamanio => exact (acceder_movimientos (servidorStorage sb) ord dia f _ _ _).2.2
  | create f => exact dia
  | truncate f tamanio => exact dia
  | tag origen destino => exact dia
  | delete f => exact dia

theorem inocua_pedir (pedido : Pedido) (guard : PedidoConsistente sb md5 n.storage pedido)
    (foreign : ∀ f, propios f → f.val ≠ pedido.objetivo) (h : Inocua sb cfg propios s n) :
    Inocua sb cfg propios s (pedir sb md5 n pedido) := by
  intro whole
  obtain ⟨⟨firme, clean⟩, same⟩ := h whole
  have good := consistente_trasPedido md5 pedido firme.bueno guard
  refine ⟨⟨firme_pedir firme pedido good fun _ _ _ nobody => nobody.elim, clean⟩, ?_⟩
  intro f own k
  rw [← same f own k]
  exact (otro_objetivo_leerBloque md5 firme.bueno.sano firme.bueno.uso (foreign f own)).2 k

theorem inocua_ejecutar (size : cfg.tamanioPagina = sb.tamanioBloque)
    (ord : Ordenada cfg n.mem) (dia : LruAlDia cfg n.mem) (h : Inocua sb cfg propios s n)
    (i : Instruccion) (foreign : Ajena propios i) (guard : CommitConsistente sb md5 cfg n i) :
    Inocua sb cfg propios s (ejecutar sb md5 cfg n i) := by
  have pasa : ∀ n n', Ordenada cfg n.mem → Inocua sb cfg propios s n →
      Paso (servidorStorage sb) cfg n n' → Inocua sb cfg propios s n' :=
    fun _ _ _ kept step => inocua_paso size step kept
  have ajeno {g : Archivo} (hg : g ∈ archivos i) : ∀ f, propios f → f.val ≠ g.val :=
    fun f own => otro_de_ajena foreign hg own
  cases i with
  | create f => exact inocua_pedir _ ⟨trivial, trivial⟩ (ajeno (by simp [archivos])) h
  | truncate f tamanio => exact inocua_pedir _ ⟨trivial, trivial⟩ (ajeno (by simp [archivos])) h
  | tag origen destino => exact inocua_pedir _ ⟨trivial, trivial⟩ (ajeno (by simp [archivos])) h
  | delete f => exact inocua_pedir _ ⟨trivial, trivial⟩ (ajeno (by simp [archivos])) h
  | flush f => exact inocua_paso size (.flush n f) h
  | commit f =>
    exact inocua_pedir _ guard (ajeno (by simp [archivos])) (inocua_paso size (.flush n f) h)
  | write f base contenido =>
    have other := foreign f (by simp [archivos])
    exact (acceder_invariante f _ pasa
      (fun _ _ _ _ _ _ he own fits kept => inocua_escribe he (own ▸ other) fits kept)
      ord dia _ _ h).1
  | read f base tamanio =>
    have other := foreign f (by simp [archivos])
    exact (acceder_invariante f _ pasa
      (fun _ _ _ _ _ _ he own fits kept => inocua_escribe he (own ▸ other) fits kept)
      ord dia _ _ h).1

theorem byteEn_create (h : FirmeEn (servidorStorage sb) cfg (Consistente sb) propios n)
    (own : propios f) (ok : (atender sb md5 n.storage (.crear f.val)).1 = true) :
    byteEn (servidorStorage sb) cfg (pedir sb md5 n (.crear f.val)) f = fun _ => none := by
  rcases crearFile_cases n.storage f.val with ⟨_, _, refused⟩ | ⟨absent, made⟩
  · rw [atender, refused] at ok
    contradiction
  · have noPage : ∀ k, paginas n.mem (f, k) = none := sin_paginas h own absent
    refine byteEn_nada (n := pedir sb md5 n (.crear f.val)) noPage fun k => ?_
    apply leerBloque_none
    intro c hc inside
    rw [pedir, trasPedido, atender, made, lookup_ponerCarpeta, if_pos rfl] at hc
    cases hc
    exact Nat.not_lt_zero _ inside.2

theorem byteEn_delete (h : FirmeEn (servidorStorage sb) cfg (Consistente sb) propios n)
    (ok : (atender sb md5 n.storage (.eliminar f.val)).1 = true)
    (none_ : marcosDesde n.mem f 0 = []) :
    byteEn (servidorStorage sb) cfg (pedir sb md5 n (.eliminar f.val)) f = fun _ => none := by
  apply byteEn_nada
  · intro k
    cases hp : paginas (pedir sb md5 n (.eliminar f.val)).mem (f, k) with
    | none => rfl
    | some line =>
      obtain ⟨m, e, he, own, _, _⟩ := (paginas_some h.ordenada).mp hp
      exact absurd (marcosDesde_vacio h.ordenada none_ he own) (Nat.not_lt_zero _)
  · intro k
    apply leerBloque_none
    intro c hc
    rcases eliminarFileTag_cases sb n.storage f.val with refused | ⟨_, _, _, gone⟩
    · rw [atender, refused] at ok
      contradiction
    · rw [pedir, trasPedido, atender, gone, lookup_borrarCarpeta, if_pos rfl] at hc
      contradiction

theorem abierta_of_truncar {tamanio : Nat}
    (ok : (atender sb md5 s (.truncar f.val tamanio)).1 = true) : ∃ c, Abierta s f.val c := by
  rcases abierta_or s f.val with there | protected_ | absent | ⟨c, hc, closed⟩
  · exact there
  · simp [atender, truncarFile, protected_] at ok
  · simp [atender, truncarFile, absent] at ok
  · simp [atender, truncarFile, verificarSiCommited, hc, closed] at ok

theorem leerBloque_truncar (h : Consistente sb s) {tamanio : Nat}
    (ok : (atender sb md5 s (.truncar f.val tamanio)).1 = true) (k : Nat) :
    leerBloque sb (trasPedido sb md5 s (.truncar f.val tamanio)) f.val k =
      if k < sb.bloquesLogicos tamanio then (leerBloque sb s f.val k).or (some (bloqueCero sb s))
      else none := by
  obtain ⟨c, open_⟩ := abierta_of_truncar ok
  have agree := h.acorde f.val c open_.esta
  obtain ⟨l, _, links, list, freed⟩ := truncarFile_efecto h.sano.fisicos h.sano.rango
    (apta_cero (apta_debil h.sano)).1 open_.libre open_.esta open_.enCurso agree tamanio
  have after : trasPedido sb md5 s (.truncar f.val tamanio) = (truncarFile sb s f.val tamanio).2 :=
    rfl
  rw [after]
  by_cases kept : k < sb.bloquesLogicos tamanio
  · rw [if_pos kept]
    cases hb : leerBloque sb s f.val k with
    | some bloque =>
      rw [leerBloque_truncado open_.esta agree links list freed.toLiberacion kept (by rw [hb]; rfl),
        hb]
      rfl
    | none =>
      have new : c.blocks.length ≤ k := by
        by_contra listed
        have inside : EnRango sb c k := by
          refine ⟨?_, by simpa using listed⟩
          rw [← agree.2 (sin_proteger_ne_inicial open_.libre)]
          omega
        rw [leerBloque_listado open_.esta agree.1 inside
          (List.getElem?_eq_getElem (Nat.lt_of_not_le listed))] at hb
        contradiction
      have block : (bloquesFinales c.blocks (sb.bloquesLogicos tamanio))[k]? = some 0 := by
        rw [bloquesFinales_get, if_pos kept, if_neg (Nat.not_lt.mpr new)]
      have inside : EnRango sb ⟨tamanio, c.estado,
          bloquesFinales c.blocks (sb.bloquesLogicos tamanio), l⟩ k := by
        refine ⟨by simpa using kept, ?_⟩
        rw [bloquesFinales_length]
        simpa using kept
      rw [leerBloque_listado links.propia list inside block, freed.datos]
      rfl
  · rw [if_neg kept]
    apply leerBloque_none
    intro c' hc' inside
    rw [links.propia] at hc'
    cases hc'
    have short := inside.1
    simp only [not_or, not_le] at short
    omega

theorem byteEn_truncate (h : FirmeEn (servidorStorage sb) cfg (Consistente sb) propios n)
    (size : cfg.tamanioPagina = sb.tamanioBloque) {tamanio : Nat}
    (ok : (atender sb md5 n.storage (.truncar f.val tamanio)).1 = true)
    (none_ : marcosDesde n.mem f (sb.bloquesLogicos tamanio) = []) :
    byteEn (servidorStorage sb) cfg (pedir sb md5 n (.truncar f.val tamanio)) f = fun i =>
      if i / sb.tamanioBloque < sb.bloquesLogicos tamanio then
        (byteEn (servidorStorage sb) cfg n f i).or (bloqueCero sb n.storage)[i % sb.tamanioBloque]?
      else none := by
  have pages : ∀ k, vista (servidorStorage sb) (pedir sb md5 n (.truncar f.val tamanio)) (f, k) =
      if k < sb.bloquesLogicos tamanio then
        (vista (servidorStorage sb) n (f, k)).or (some (bloqueCero sb n.storage)) else none := by
    intro k
    simp only [vista, view, pedir]
    cases hp : paginas n.mem (f, k) with
    | none => exact leerBloque_truncar h.bueno ok k
    | some line =>
      obtain ⟨m, e, he, own, rfl, _⟩ := (paginas_some h.ordenada).mp hp
      rw [if_pos (marcosDesde_vacio h.ordenada none_ he own)]
      rfl
  funext i
  simp only [byteEn, pages, size]
  by_cases kept : i / sb.tamanioBloque < sb.bloquesLogicos tamanio
  · rw [if_pos kept, if_pos kept]
    cases hv : vista (servidorStorage sb) n (f, i / sb.tamanioBloque) with
    | none => rfl
    | some pagina =>
      have whole := vista_length h size hv
      have there : i % sb.tamanioBloque < pagina.length := by
        rw [whole]
        exact Nat.mod_lt i sb.bloque_pos
      simp [List.getElem?_eq_getElem there]
  · rw [if_neg kept, if_neg kept]
    rfl

theorem byteEn_tag (h : FirmeEn (servidorStorage sb) cfg (Consistente sb) propios n)
    (own : propios f) (ownNew : propios g)
    (ok : (atender sb md5 n.storage (.tag f.val g.val)).1 = true)
    (clean : hayModificadas n.mem f = false) :
    byteEn (servidorStorage sb) cfg (pedir sb md5 n (.tag f.val g.val)) g =
      byteEn (servidorStorage sb) cfg n f := by
  rcases tagFile_cases n.storage f.val g.val with refused | ⟨c, _, there, absent, made⟩
  · rw [atender, refused] at ok
    contradiction
  · have written : Limpia (· = f) n.mem :=
      (limpia_iff h.ordenada).mpr fun _ same => same ▸ clean
    have new : (pedir sb md5 n (.tag f.val g.val)).storage =
        n.storage.ponerCarpeta g.val { c with estado := .workInProgress } :=
      congrArg Prod.snd made
    have lookup := (lookup_ponerCarpeta n.storage g.val g.val
      { c with estado := .workInProgress }).trans (if_pos rfl)
    funext i
    simp only [byteEn]
    congr 1
    rw [vista, vista, view_clean (h.coherente f own _) (written f rfl _), view]
    have noPage : paginas (pedir sb md5 n (.tag f.val g.val)).mem (g, i / cfg.tamanioPagina) =
      none := sin_paginas h ownNew absent _
    rw [noPage]
    simp only [bloques, servidorStorage, new, leerBloque, lookup, there]
    rfl

theorem byteEn_commit (h : FirmeEn (servidorStorage sb) cfg (Consistente sb) propios n)
    (equal : ∀ c ∈ n.storage.carpetas.lookup f.val, c.estado ≠ .commited →
      ∀ k < c.blocks.length, ReemplazoIgual sb md5 n.storage c k) :
    byteEn (servidorStorage sb) cfg (pedir sb md5 n (.commit f.val)) f =
      byteEn (servidorStorage sb) cfg n f := by
  have read : ∀ k : Nat, leerBloque sb (trasPedido sb md5 n.storage (.commit f.val)) f.val k =
      leerBloque sb n.storage f.val k := by
    intro k
    rcases commit_cases sb md5 f.val h.bueno.sano with ⟨same, _⟩ | ⟨c, _, hc, open_, done⟩
    · rw [same]
    · apply leerBloque_commit _ (h.bueno.acorde f.val c hc) hc done
      intro b hb
      exact equal c hc open_ k (List.getElem?_eq_some_iff.mp hb).1 b hb
  funext i
  simp only [byteEn, vista, view, pedir, bloques, servidorStorage, read]

variable {i : Instruccion}

theorem Muestra.tras (h : Muestra sb cfg propios cero n p) (i : Instruccion)
    (accepted : SinRechazo sb md5 cfg n i)
    (firme : FirmeEn (servidorStorage sb) cfg (Consistente sb) propios (ejecutar sb md5 cfg n i))
    (bytes : ∀ f, propios f →
      byteEn (servidorStorage sb) cfg (ejecutar sb md5 cfg n i) f = p' f) :
    Muestra sb cfg propios cero (ejecutar sb md5 cfg n i) p' :=
  ⟨firme, lruAlDia_ejecutar sb md5 h.firme.ordenada h.dia i, accepted.trans h.ninguno,
    (conCero_ejecutar md5 h.firme.ordenada h.dia ⟨h.firme.bueno.sano, h.cero⟩ i).2, bytes⟩

theorem Muestra.entera (h : Muestra sb cfg propios cero n p)
    (accepted : SinRechazo sb md5 cfg n i) : SinPerdida (ejecutar sb md5 cfg n i) :=
  sinPerdida_of_ninguno (accepted.trans h.ninguno)

theorem muestra_write (size : cfg.tamanioPagina = sb.tamanioBloque)
    (h : Muestra sb cfg propios cero n p) (f : Archivo) (base : Nat) (contenido : Bytes)
    (ok : SinError sb md5 cfg n (.write f base contenido)) :
    Muestra sb cfg propios cero (ejecutar sb md5 cfg n (.write f base contenido))
      (sobrescribir p f base (cadena contenido)) := by
  obtain ⟨firme, bytes⟩ := executeWrite_en (storage_fiel Hash size) h.firme h.dia f base contenido
    (h.entera ok.1)
  refine h.tras _ ok.1 firme fun g own => (bytes g own).trans ?_
  have all : (cadena contenido).take
      (executeWrite (servidorStorage sb) cfg n f base contenido).procesados = cadena contenido := by
    rcases ok.2 with nothing | complete
    · rw [nothing, List.take_nil]
    · have done := acceder_procesados (servidorStorage sb) f base _ _ complete
      exact (congrArg (cadena contenido).take done).trans List.take_length
  rw [all]
  exact sobrescribir_congr (h.bytes g own)

theorem muestra_read (size : cfg.tamanioPagina = sb.tamanioBloque)
    (h : Muestra sb cfg propios cero n p) (f : Archivo) (base : Nat) (tamanio : Int)
    (ok : SinError sb md5 cfg n (.read f base tamanio)) :
    Muestra sb cfg propios cero (ejecutar sb md5 cfg n (.read f base tamanio)) p ∧
      (propios f → lectura sb cfg n (.read f base tamanio) =
        lecturaPlano p (.read f base tamanio)) := by
  obtain ⟨firme, same, length_, bytes⟩ := executeRead_en (storage_fiel Hash size) h.firme h.dia f
    base tamanio (h.entera ok.1)
  refine ⟨h.tras _ ok.1 firme fun g own => (byteEn_congr same own).trans (h.bytes g own), ?_⟩
  intro own
  simp only [lectura, lecturaPlano]
  by_cases nothing : tamanio.toNat = 0
  · simp [executeRead, accederMemoria, nothing]
  · have complete := ok.2.resolve_left nothing
    have done : (executeRead (servidorStorage sb) cfg n f base tamanio).procesados =
      tamanio.toNat := acceder_procesados (servidorStorage sb) f base _ _ complete
    rw [done] at length_ bytes
    rw [if_neg nothing, if_pos complete]
    congr 2
    apply List.ext_getElem?
    intro j
    by_cases hj : j < tamanio.toNat
    · have byte := bytes own j hj
      rw [h.bytes f own] at byte
      rw [byte, List.getElem?_map, List.getElem?_range hj, Option.map_some, ← byte,
        List.getElem?_eq_getElem (by omega), Option.getD_some]
    · rw [List.getElem?_eq_none (by omega), List.getElem?_eq_none (by simpa using hj)]

theorem muestra_flush (md5 : Bytes → Hash) (size : cfg.tamanioPagina = sb.tamanioBloque)
    (h : Muestra sb cfg propios cero n p) (f : Archivo)
    (accepted : (executeFlush (servidorStorage sb) cfg n f).rechazados = n.rechazados) :
    Muestra sb cfg propios cero (executeFlush (servidorStorage sb) cfg n f) p := by
  have whole := sinPerdida_of_ninguno (accepted.trans h.ninguno)
  obtain ⟨firme, same⟩ := executeFlush_en (storage_fiel Hash size) h.firme f whole
  exact ⟨firme, lruAlDia_flush _ h.firme.ordenada h.dia f, accepted.trans h.ninguno,
    (conCero_paso md5 (.flush n f) ⟨h.firme.bueno.sano, h.cero⟩).2,
    fun g own => (byteEn_congr same own).trans (h.bytes g own)⟩

theorem pedir_ajeno (h : FirmeEn (servidorStorage sb) cfg (Consistente sb) propios n)
    (pedido : Pedido) (guard : PedidoConsistente sb md5 n.storage pedido)
    (foreign : ∀ f, propios f → f.val ≠ pedido.objetivo) :
    FirmeEn (servidorStorage sb) cfg (Consistente sb) propios (pedir sb md5 n pedido) ∧
      ∀ f, propios f → byteEn (servidorStorage sb) cfg (pedir sb md5 n pedido) f =
        byteEn (servidorStorage sb) cfg n f := by
  refine ⟨firme_pedir h pedido (consistente_trasPedido md5 pedido h.bueno guard) ?_, ?_⟩
  · intro m e _ own _
    exact (otro_objetivo_leerBloque md5 h.bueno.sano h.bueno.uso (foreign e.archivo own)).2 _
  · exact fun f own => byteEn_pedir_otro h.bueno pedido (foreign f own)

theorem muestra_ajena (size : cfg.tamanioPagina = sb.tamanioBloque)
    (h : Muestra sb cfg propios cero n p) (foreign : Ajena propios i)
    (ok : SinError sb md5 cfg n i) (safe : CommitConsistente sb md5 cfg n i) :
    Muestra sb cfg propios cero (ejecutar sb md5 cfg n i) p := by
  have pide (pedido : Pedido) (guard : PedidoConsistente sb md5 n.storage pedido)
      (other : ∀ f, propios f → f.val ≠ pedido.objetivo)
      (same : ejecutar sb md5 cfg n i = pedir sb md5 n pedido) :
      Muestra sb cfg propios cero (ejecutar sb md5 cfg n i) p := by
    obtain ⟨firme, bytes⟩ := pedir_ajeno h.firme pedido guard other
    rw [← same] at firme bytes
    exact h.tras i ok.1 firme fun f own => (bytes f own).trans (h.bytes f own)
  cases i with
  | create f =>
    exact pide (.crear f.val) ⟨trivial, trivial⟩
      (fun _ => otro_de_ajena foreign (by simp [archivos])) rfl
  | truncate f tamanio =>
    exact pide (.truncar f.val tamanio) ⟨trivial, trivial⟩
      (fun _ => otro_de_ajena foreign (by simp [archivos])) rfl
  | tag origen destino =>
    exact pide (.tag origen.val destino.val) ⟨trivial, trivial⟩
      (fun _ => otro_de_ajena foreign (by simp [archivos])) rfl
  | delete f =>
    exact pide (.eliminar f.val) ⟨trivial, trivial⟩
      (fun _ => otro_de_ajena foreign (by simp [archivos])) rfl
  | flush f => exact muestra_flush md5 size h f ok.1
  | commit f =>
    have flushed := muestra_flush md5 size h f ok.1
    obtain ⟨firme, bytes⟩ := pedir_ajeno flushed.firme (.commit f.val) safe
      (fun _ => otro_de_ajena foreign (by simp [archivos]))
    exact h.tras _ ok.1 firme fun g own => (bytes g own).trans (flushed.bytes g own)
  | read f base tamanio => exact (muestra_read size h f base tamanio ok).1
  | write f base contenido =>
    have written := muestra_write size h f base contenido ok
    refine h.tras _ ok.1 written.firme fun g own => (written.bytes g own).trans ?_
    have other : g ≠ f := fun same =>
      otro_de_ajena foreign (g := f) (by simp [archivos]) own (congrArg Subtype.val same)
    funext j
    exact if_neg fun here => other here.1

theorem muestra_propia (size : cfg.tamanioPagina = sb.tamanioBloque)
    (h : Muestra sb cfg propios cero n p) (own : ∀ f ∈ archivos i, propios f)
    (ok : SinError sb md5 cfg n i) (safe : CommitConsistente sb md5 cfg n i)
    (trusty : Fiable sb md5 cfg n i) :
    Muestra sb cfg propios cero (ejecutar sb md5 cfg n i) (trasPlano sb cero p i) ∧
      lectura sb cfg n i = lecturaPlano p i := by
  -- a request that gives its target the bytes `bytes` and the other File:Tags none
  have pide (pedido : Pedido) (f : Archivo) (target : f.val = pedido.objetivo)
      (same : ejecutar sb md5 cfg n i = pedir sb md5 n pedido)
      (firme : FirmeEn (servidorStorage sb) cfg (Consistente sb) propios (pedir sb md5 n pedido))
      (bytes : Nat → Option UInt8)
      (here : byteEn (servidorStorage sb) cfg (pedir sb md5 n pedido) f = bytes) :
      Muestra sb cfg propios cero (ejecutar sb md5 cfg n i) (Function.update p f bytes) := by
    refine h.tras i ok.1 (same ▸ firme) fun g ownG => ?_
    rw [same]
    by_cases hg : g = f
    · rw [hg, here, Function.update_self]
    · rw [Function.update_of_ne hg, ← h.bytes g ownG]
      exact byteEn_pedir_otro h.firme.bueno pedido fun equal =>
        hg (Subtype.ext (equal.trans target.symm))
  have named {g : Archivo} (hg : g ∈ archivos i) : propios g := own g hg
  cases i with
  | create f =>
    exact ⟨pide (.crear f.val) f rfl rfl (firme_create h.firme f) _
      (byteEn_create h.firme (named (by simp [archivos])) ok.2), rfl⟩
  | delete f =>
    exact ⟨pide (.eliminar f.val) f rfl rfl (firme_delete h.firme f fun _ _ => trusty) _
      (byteEn_delete h.firme ok.2 trusty), rfl⟩
  | truncate f tamanio =>
    refine ⟨pide (.truncar f.val tamanio) f rfl rfl
      (firme_truncate h.firme f tamanio fun _ => trusty) _ ?_, rfl⟩
    rw [byteEn_truncate h.firme size ok.2 trusty, h.bytes f (named (by simp [archivos])), h.cero]
  | tag origen destino =>
    refine ⟨pide (.tag origen.val destino.val) destino rfl rfl
      (firme_tag h.firme origen destino) _ ?_, rfl⟩
    rw [byteEn_tag h.firme (named (by simp [archivos])) (named (by simp [archivos])) ok.2 trusty,
      h.bytes origen (named (by simp [archivos]))]
  | flush f => exact ⟨muestra_flush md5 size h f ok.1, rfl⟩
  | commit f =>
    have flushed := muestra_flush md5 size h f ok.1
    refine ⟨h.tras _ ok.1 (firme_commit flushed.firme f ⟨safe, ?_⟩) fun g ownG => ?_, rfl⟩
    · intro _ c hc open_ m _ e _ b hb
      exact trusty c hc open_ e.numeroPagina (List.getElem?_eq_some_iff.mp hb).1 b hb
    · apply Eq.trans _ (flushed.bytes g ownG)
      by_cases hg : g = f
      · rw [hg]
        exact byteEn_commit flushed.firme trusty
      · exact byteEn_pedir_otro flushed.firme.bueno (.commit f.val) fun same =>
          hg (Subtype.ext same)
  | read f base tamanio =>
    obtain ⟨next, bytes⟩ := muestra_read size h f base tamanio ok
    exact ⟨next, bytes (named (by simp [archivos]))⟩
  | write f base contenido => exact ⟨muestra_write size h f base contenido ok, rfl⟩

end WorkerConsultas
