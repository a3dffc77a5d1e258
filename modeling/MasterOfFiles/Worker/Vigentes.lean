import MasterOfFiles.Storage.Contenidos
import MasterOfFiles.Worker.Ejecucion

/-!
Whether the loaded pages keep up with Storage. TRUNCATE and DELETE are requests to Storage
alone, which leave in memory the pages they take away; COMMIT may move a logical block to a
physical one with other bytes.
-/
namespace WorkerVigentes
open StorageEstado StorageArchivos StorageEscritura StoragePrimitivas StoragePedidos
open StorageDeduplicacion StorageAcuerdo StorageMovidas StorageEfectos StorageContenidos
open StorageVolcados LinkDirectory GuardedRuns
open WorkerMemoria WorkerPaginas WorkerReemplazo WorkerCoherencia WorkerRecorridos WorkerEjecucion
open WriteBack

variable {Hash : Type} {sb : Superbloque} {s s' : Storage Hash} {f g : FileTag} {c : Carpeta}
  {k : Nat}

/-- Every loaded page is one of its File:Tag in Storage, and if it is not modified it holds
    the logical block. -/
def PaginasVigentes (sb : Superbloque) (n : Nodo (Storage Hash)) : Prop :=
  ∀ m e, n.mem.marcos m = some e →
    (∃ c ∈ n.storage.carpetas.lookup e.archivo.val,
      e.numeroPagina < sb.bloquesLogicos c.tamanio) ∧
    (e.modificada = false →
      leerBloque sb n.storage e.archivo.val e.numeroPagina = some (n.mem.arena m))

theorem leerBloque_rango (there : (leerBloque sb s f k).isSome = true) :
    ∃ c, s.carpetas.lookup f = some c ∧ EnRango sb c k := by
  unfold leerBloque at there
  split at there
  · contradiction
  rename_i c hc
  split at there
  · contradiction
  rename_i inside
  split at there
  · contradiction
  rename_i listed
  exact ⟨c, hc, inside, Nat.lt_of_not_le listed⟩

theorem leerBloque_ajena (otras : ∀ g, g ≠ f → s'.carpetas.lookup g = s.carpetas.lookup g)
    (datos : s'.datos = s.datos) (other : g ≠ f) :
    leerBloque sb s' g k = leerBloque sb s g k :=
  leerBloque_congr (otras g other) (fun _ b _ => congrFun datos b) k

theorem leerBloque_nueva (new : s.carpetas.lookup f = none) (c : Carpeta)
    (there : (leerBloque sb s g k).isSome = true) :
    leerBloque sb (s.ponerCarpeta f c) g k = leerBloque sb s g k := by
  have other : g ≠ f := by
    intro same
    obtain ⟨c', hc', _⟩ := leerBloque_rango there
    rw [same, new] at hc'
    contradiction
  exact leerBloque_congr ((lookup_ponerCarpeta s f g c).trans (if_neg other))
    (fun _ _ _ => rfl) k

theorem leerBloque_truncado {tamanio : Nat} {l : Dir Nat Nat} {quitados : Nat → Prop}
    (hc : s.carpetas.lookup f = some c) (agree : Acorde sb f c)
    (links : ConLinks s f
      ⟨tamanio, c.estado, bloquesFinales c.blocks (sb.bloquesLogicos tamanio), l⟩ l s')
    (lista : ∀ i, l.lookup i = (bloquesFinales c.blocks (sb.bloquesLogicos tamanio))[i]?)
    (libera : Liberacion s quitados s') (kept : k < sb.bloquesLogicos tamanio)
    (there : (leerBloque sb s f k).isSome = true) :
    leerBloque sb s' f k = leerBloque sb s f k := by
  obtain ⟨c', hc', inside⟩ := leerBloque_rango there
  cases hc.symm.trans hc'
  have listed : k < c.blocks.length := inside.2
  have block := List.getElem?_eq_getElem listed
  have block' : (bloquesFinales c.blocks (sb.bloquesLogicos tamanio))[k]? =
      some c.blocks[k] := by
    rw [bloquesFinales_get, if_pos kept, if_pos listed, block]
  have agree' : Acorde sb f
      ⟨tamanio, c.estado, bloquesFinales c.blocks (sb.bloquesLogicos tamanio), l⟩ :=
    ⟨lista, fun _ => bloquesFinales_length _ _⟩
  rw [leerBloque_listado hc agree.1 inside block,
    leerBloque_listado links.propia agree'.1 ?_ block',
    libera.datos]
  refine ⟨by simpa using kept, ?_⟩
  rw [bloquesFinales_length]
  simpa using kept

variable {cfg : ConfigMemoria} {n : Nodo (Storage Hash)} {a : Archivo} {propios : Archivo → Prop}

def marcosDesde (mem : Memoria) (f : Archivo) (hasta : Nat) : List Nat :=
  (mem.tablasPaginas (claveFileTag f)).filter fun m =>
    (mem.marcos m).any fun e => decide (hasta ≤ e.numeroPagina)

theorem marcosDesde_vacio (ord : Ordenada cfg n.mem) {hasta : Nat}
    (none_ : marcosDesde n.mem a hasta = []) {m : Nat} {e : EntradaPagina}
    (he : n.mem.marcos m = some e) (own : e.archivo = a) : e.numeroPagina < hasta := by
  have listed := (ord.tabla (claveFileTag a) m).mpr ⟨e, he, by rw [own]⟩
  have out := List.filter_eq_nil_iff.mp none_ m listed
  simpa [he] using out

structure AlDia (sb : Superbloque) (cfg : ConfigMemoria) (n : Nodo (Storage Hash)) : Prop where
  firme : Firme (servidorStorage sb) cfg (Consistente sb) n
  dia : LruAlDia cfg n.mem
  entera : SinPerdida n

theorem paginasVigentes_of_alDia (h : AlDia sb cfg n) : PaginasVigentes sb n := by
  intro m e he
  have loaded := paginas_of_marco h.firme.ordenada he
  obtain ⟨c, hc, range⟩ := leerBloque_rango (h.firme.respaldada _ _ loaded)
  refine ⟨⟨c, hc, ?_⟩, fun clean => h.firme.coherente _ _ loaded clean⟩
  have low := range.1
  omega

theorem alDia_flush (size : cfg.tamanioPagina = sb.tamanioBloque) (h : AlDia sb cfg n)
    (a : Archivo) (whole : SinPerdida (executeFlush (servidorStorage sb) cfg n a)) :
    AlDia sb cfg (executeFlush (servidorStorage sb) cfg n a) := by
  obtain ⟨firme, _, dia⟩ := executeFlush_spec (storage_fiel Hash size) h.firme h.dia a whole
  exact ⟨firme, dia, whole⟩

variable [DecidableEq Hash] {md5 : Bytes → Hash}

def Modificable (s : Storage Hash) (f : FileTag) : Prop :=
  esProtegido f = false ∧ ∃ c ∈ s.carpetas.lookup f, c.estado ≠ .commited

def CommitConservador (sb : Superbloque) (md5 : Bytes → Hash) (n : Nodo (Storage Hash))
    (f : Archivo) : Prop :=
  PedidoConsistente sb md5 n.storage (.commit f.val) ∧
    (esProtegido f.val = false → ∀ c ∈ n.storage.carpetas.lookup f.val, c.estado ≠ .commited →
      ∀ m ∈ marcosDesde n.mem f 0, ∀ e ∈ n.mem.marcos m,
        ReemplazoIgual sb md5 n.storage c e.numeroPagina)

/-- No page of f is loaded that a TRUNCATE or DELETE takes away, and a COMMIT keeps contents
    where it links a logical block anew. -/
def Cuidada (sb : Superbloque) (md5 : Bytes → Hash) (cfg : ConfigMemoria)
    (n : Nodo (Storage Hash)) : Instruccion → Prop
  | .truncate f tamanio => Modificable n.storage f.val →
      marcosDesde n.mem f (sb.bloquesLogicos tamanio) = []
  | .delete f => esProtegido f.val = false → (n.storage.carpetas.lookup f.val).isSome = true →
      marcosDesde n.mem f 0 = []
  | .commit f =>
      CommitConservador sb md5 (executeFlush (servidorStorage sb) cfg n f) f
  | _ => True

theorem firme_pedir (h : FirmeEn (servidorStorage sb) cfg (Consistente sb) propios n) (p : Pedido)
    (good : Consistente sb (trasPedido sb md5 n.storage p))
    (kept : ∀ m e, n.mem.marcos m = some e → propios e.archivo →
      (leerBloque sb n.storage e.archivo.val e.numeroPagina).isSome = true →
      leerBloque sb (trasPedido sb md5 n.storage p) e.archivo.val e.numeroPagina =
        leerBloque sb n.storage e.archivo.val e.numeroPagina) :
    FirmeEn (servidorStorage sb) cfg (Consistente sb) propios (pedir sb md5 n p) := by
  have same : ∀ f, propios f → ∀ k line, paginas n.mem (f, k) = some line →
      bloques (servidorStorage sb) (trasPedido sb md5 n.storage p) (f, k) =
        bloques (servidorStorage sb) n.storage (f, k) := by
    intro f own k line hl
    obtain ⟨m, e, he, rfl, rfl, _⟩ := (paginas_some h.ordenada).mp hl
    exact kept m e he own (h.respaldada _ own _ line hl)
  refine ⟨h.ordenada, h.largas, good, ?_, ?_⟩
  · intro f own k line hl clean
    exact (same f own k line hl).trans (h.coherente f own k line hl clean)
  · intro f own k line hl
    have there := h.respaldada f own k line hl
    rw [← same f own k line hl] at there
    exact there

instance (sb : Superbloque) (md5 : Bytes → Hash) (cfg : ConfigMemoria)
    (n : Nodo (Storage Hash)) : ∀ i, Decidable (Cuidada sb md5 cfg n i)
  | .truncate _ _ => inferInstanceAs (Decidable ((_ ∧ ∃ c ∈ _, _) → _))
  | .delete _ => inferInstanceAs (Decidable (_ → _ → _))
  | .commit _ => inferInstanceAs (Decidable (_ ∧ (_ → ∀ c ∈ _, _ → ∀ m ∈ _, ∀ e ∈ _, _)))
  | .create _ | .write _ _ _ | .read _ _ _ | .tag _ _ | .flush _ =>
    inferInstanceAs (Decidable True)

theorem firme_create (h : FirmeEn (servidorStorage sb) cfg (Consistente sb) propios n)
    (a : Archivo) :
    FirmeEn (servidorStorage sb) cfg (Consistente sb) propios (pedir sb md5 n (.crear a.val)) := by
  have good := consistente_trasPedido md5 (.crear a.val) h.bueno ⟨trivial, trivial⟩
  have effect := trasPedido_efecto md5 (.crear a.val) h.bueno.sano h.bueno.acorde
  refine firme_pedir h _ good fun m e _ _ there => ?_
  generalize trasPedido sb md5 n.storage (.crear a.val) = s' at effect
  cases effect with
  | nada => rfl
  | crear _ new => exact leerBloque_nueva new _ there

theorem firme_tag (h : FirmeEn (servidorStorage sb) cfg (Consistente sb) propios n)
    (origen destino : Archivo) : FirmeEn (servidorStorage sb) cfg (Consistente sb) propios
      (pedir sb md5 n (.tag origen.val destino.val)) := by
  have good := consistente_trasPedido md5 (.tag origen.val destino.val) h.bueno
    ⟨trivial, trivial⟩
  have effect := trasPedido_efecto md5 (.tag origen.val destino.val) h.bueno.sano h.bueno.acorde
  refine firme_pedir h _ good fun m e _ _ there => ?_
  generalize trasPedido sb md5 n.storage (.tag origen.val destino.val) = s' at effect
  cases effect with
  | nada => rfl
  | tag _ _ c _ _ new => exact leerBloque_nueva new _ there

theorem firme_truncate (h : FirmeEn (servidorStorage sb) cfg (Consistente sb) propios n)
    (a : Archivo) (tamanio : Nat) (guard : Modificable n.storage a.val →
      marcosDesde n.mem a (sb.bloquesLogicos tamanio) = []) :
    FirmeEn (servidorStorage sb) cfg (Consistente sb) propios
      (pedir sb md5 n (.truncar a.val tamanio)) := by
  have good := consistente_trasPedido md5 (.truncar a.val tamanio) h.bueno
    ⟨trivial, trivial⟩
  have effect := trasPedido_efecto md5 (.truncar a.val tamanio) h.bueno.sano h.bueno.acorde
  refine firme_pedir h _ good fun m e he _ there => ?_
  generalize trasPedido sb md5 n.storage (.truncar a.val tamanio) = s' at effect
  cases effect with
  | nada => rfl
  | truncar _ _ c open_ l _ links list freed =>
    by_cases own : e.archivo = a
    · have short := guard ⟨open_.libre, c, open_.esta, open_.enCurso⟩
      have kept := marcosDesde_vacio h.ordenada short he own
      rw [own] at there ⊢
      exact leerBloque_truncado open_.esta (h.bueno.acorde _ c open_.esta) links list freed kept
        there
    · exact leerBloque_ajena links.otras freed.datos fun same => own (Subtype.ext same)

theorem firme_delete (h : FirmeEn (servidorStorage sb) cfg (Consistente sb) propios n) (a : Archivo)
    (guard : esProtegido a.val = false → (n.storage.carpetas.lookup a.val).isSome = true →
      marcosDesde n.mem a 0 = []) :
    FirmeEn (servidorStorage sb) cfg (Consistente sb) propios
      (pedir sb md5 n (.eliminar a.val)) := by
  have good := consistente_trasPedido md5 (.eliminar a.val) h.bueno ⟨trivial, trivial⟩
  have effect := trasPedido_efecto md5 (.eliminar a.val) h.bueno.sano h.bueno.acorde
  refine firme_pedir h _ good fun m e he _ there => ?_
  generalize trasPedido sb md5 n.storage (.eliminar a.val) = s' at effect
  cases effect with
  | nada => rfl
  | eliminar _ c unprotected esta _ folders freed =>
    have apart : e.archivo ≠ a := by
      intro own
      have gone := guard unprotected (by rw [esta]; rfl)
      exact absurd (marcosDesde_vacio h.ordenada gone he own) (Nat.not_lt_zero _)
    exact leerBloque_ajena (fun g hg => (folders g).trans (if_neg hg)) freed.datos
      fun same => apart (Subtype.ext same)

theorem firme_commit (h : FirmeEn (servidorStorage sb) cfg (Consistente sb) propios n) (a : Archivo)
    (guard : CommitConservador sb md5 n a) :
    FirmeEn (servidorStorage sb) cfg (Consistente sb) propios (pedir sb md5 n (.commit a.val)) := by
  have good := consistente_trasPedido md5 (.commit a.val) h.bueno guard.1
  have effect := trasPedido_efecto md5 (.commit a.val) h.bueno.sano h.bueno.acorde
  refine firme_pedir h _ good fun m e he _ there => ?_
  generalize trasPedido sb md5 n.storage (.commit a.val) = s' at effect
  cases effect with
  | nada => rfl
  | commit _ c open_ _ done =>
    by_cases own : e.archivo = a
    · have loaded : m ∈ marcosDesde n.mem a 0 := by
        have listed := (h.ordenada.tabla (claveFileTag a) m).mpr ⟨e, he, by rw [own]⟩
        simp [marcosDesde, listed, he]
      have equal := guard.2 open_.libre c open_.esta open_.enCurso m loaded e he
      rw [own]
      exact leerBloque_commit equal (h.bueno.acorde _ c open_.esta) open_.esta done
    · exact leerBloque_ajena done.otros done.datos fun same => own (Subtype.ext same)

def PasoCuidado (sb : Superbloque) (md5 : Bytes → Hash) (cfg : ConfigMemoria)
    (n : Nodo (Storage Hash)) (i : Instruccion) : Prop :=
  Cuidada sb md5 cfg n i ∧ SinPerdida (ejecutar sb md5 cfg n i)

instance (sb : Superbloque) (md5 : Bytes → Hash) (cfg : ConfigMemoria)
    (n : Nodo (Storage Hash)) (i : Instruccion) : Decidable (PasoCuidado sb md5 cfg n i) :=
  inferInstanceAs (Decidable (_ ∧ ∀ r ∈ _, _))

theorem alDia_paso (size : cfg.tamanioPagina = sb.tamanioBloque) (h : AlDia sb cfg n)
    (i : Instruccion) (guard : PasoCuidado sb md5 cfg n i) :
    AlDia sb cfg (ejecutar sb md5 cfg n i) := by
  obtain ⟨careful, whole⟩ := guard
  have fiel := storage_fiel Hash size
  cases i with
  | create a => exact ⟨firme_iff.mpr (firme_create (firme_iff.mp h.firme) a), h.dia, whole⟩
  | truncate a tamanio =>
    exact ⟨firme_iff.mpr (firme_truncate (firme_iff.mp h.firme) a tamanio careful), h.dia, whole⟩
  | write a base contenido =>
    obtain ⟨_, _, dia⟩ := acceder_movimientos (servidorStorage sb) h.firme.ordenada h.dia a base
      (cadena contenido).length (some (cadena contenido))
    obtain ⟨firme, _⟩ := executeWrite_spec fiel h.firme h.dia a base contenido whole
    exact ⟨firme, dia, whole⟩
  | read a base tamanio =>
    obtain ⟨_, _, dia⟩ := acceder_movimientos (servidorStorage sb) h.firme.ordenada h.dia a base
      tamanio.toNat none
    obtain ⟨firme, _⟩ := executeRead_spec fiel h.firme h.dia a base tamanio whole
    exact ⟨firme, dia, whole⟩
  | tag origen destino =>
    exact ⟨firme_iff.mpr (firme_tag (firme_iff.mp h.firme) origen destino), h.dia, whole⟩
  | commit a =>
    have flushed := alDia_flush size h a whole
    exact ⟨firme_iff.mpr (firme_commit (firme_iff.mp flushed.firme) a careful), flushed.dia, whole⟩
  | flush a => exact alDia_flush size h a whole
  | delete a => exact ⟨firme_iff.mpr (firme_delete (firme_iff.mp h.firme) a careful), h.dia, whole⟩

/-- Along every run that takes no page from under the memory, the pages keep up with Storage
    after every step. -/
theorem corridas_cuidadas_paginas_vigentes (cfg : ConfigMemoria)
    (size : cfg.tamanioPagina = sb.tamanioBloque) (consistent : Consistente sb s)
    {is : List Instruccion}
    (safe : Along (ejecutar sb md5 cfg) (PasoCuidado sb md5 cfg) ⟨crearMemoria cfg, s, []⟩ is) :
    ∀ pre, pre <+: is →
      PaginasVigentes sb (pre.foldl (ejecutar sb md5 cfg) ⟨crearMemoria cfg, s, []⟩) := by
  have start : AlDia sb cfg ⟨crearMemoria cfg, s, []⟩ :=
    ⟨firme_inicial cfg consistent, lruAlDia_crearMemoria cfg, by simp [SinPerdida]⟩
  intro pre hp
  exact paginasVigentes_of_alDia (invariant_on_prefixes (AlDia sb cfg)
    (fun n i h guard => alDia_paso size h i guard) start safe pre hp)

/-! Runs with two frames of one byte. -/

def dosMarcos : ConfigMemoria := ⟨2, 1, .lru, Nat.one_pos, Nat.le_succ 1⟩

def alArrancar : Nodo (Storage Bytes) := ⟨crearMemoria dosMarcos, formatearFs discoDeSeis, []⟩

def cuidadosa : List Instruccion :=
  [.create archivoUno, .delete archivoUno, .create archivoUno, .truncate archivoUno 2,
    .write archivoUno 0 [120, 121], .truncate archivoUno 3, .read archivoUno 0 3,
    .commit archivoUno, .flush archivoUno]

theorem corridas_cuidadas_paginas_vigentes_corrida :
    Along (ejecutar discoDeSeis id dosMarcos) (PasoCuidado discoDeSeis id dosMarcos) alArrancar
        cuidadosa ∧
      ∀ pre, pre <+: cuidadosa →
        PaginasVigentes discoDeSeis (pre.foldl (ejecutar discoDeSeis id dosMarcos) alArrancar) :=
  ⟨by decide, corridas_cuidadas_paginas_vigentes dosMarcos rfl (consistente_formatearFs discoDeSeis)
    (by decide)⟩

/-- TRUNCATE to one block leaves page 1 in its frame. -/
def acortada : List Instruccion :=
  [.create archivoUno, .truncate archivoUno 2, .write archivoUno 0 [120, 121],
    .truncate archivoUno 1]

def trasAcortar : Nodo (Storage Bytes) :=
  acortada.foldl (ejecutar discoDeSeis id dosMarcos) alArrancar

theorem truncate_deja_pagina_vieja :
    trasAcortar.rechazados = [] ∧ ¬ PaginasVigentes discoDeSeis trasAcortar := by
  refine ⟨by decide, fun current => ?_⟩
  have loaded : trasAcortar.mem.marcos 1 = some ⟨archivoUno, 1, true⟩ := rfl
  obtain ⟨⟨c, hc, inside⟩, _⟩ := current 1 _ loaded
  have size : (trasAcortar.storage.carpetas.lookup a1).map (·.tamanio) = some 1 := by decide
  have one : c.tamanio = 1 := by
    have found : trasAcortar.storage.carpetas.lookup a1 = some c := hc
    rw [found] at size
    exact Option.some.inj size
  rw [one] at inside
  exact absurd inside (by decide)

end WorkerVigentes
