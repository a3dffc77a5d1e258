import MasterOfFiles.Lib.GuardedRuns
import MasterOfFiles.Worker.Ejecucion

/-!
Paging against a reference without pages, in which each File:Tag is one array of TAMANIO bytes
that WRITE changes in place.
-/
namespace WorkerTransparencia
open StorageEstado StorageArchivos StorageEscritura StoragePrimitivas StoragePedidos
open StorageAcuerdo StorageMovidas StorageVolcados LinkDirectory GuardedRuns
open WorkerMemoria WorkerPaginas WorkerReemplazo WorkerCoherencia WorkerAccesos WorkerRecorridos
open WorkerEjecucion WriteBack

variable {Hash : Type} {sb : Superbloque} {cfg : ConfigMemoria} {s : Storage Hash} {f : Archivo}

abbrev Referencia := Archivo → Bytes

/-- The first TAMANIO bytes of the logical blocks, one after the other. -/
def archivoPlano (sb : Superbloque) (s : Storage Hash) : Referencia := fun f =>
  match s.carpetas.lookup f.val with
  | none => []
  | some c => ((List.range (sb.bloquesLogicos c.tamanio)).flatMap fun k : Nat =>
      (leerBloque sb s f.val k).getD []).take c.tamanio

def trasReferencia (r : Referencia) : Instruccion → Referencia
  | .write f base contenido =>
    Function.update r f (conParcial (r f) base (cadena contenido))
  | _ => r

def lecturaReferencia (r : Referencia) : Instruccion → List (Option Bytes)
  | .read f base tamanio => [some (((r f).drop base).take tamanio.toNat)]
  | _ => []

def lecturasReferencia : Referencia → List Instruccion → List (Option Bytes)
  | _, [] => []
  | r, i :: is => lecturaReferencia r i ++ lecturasReferencia (trasReferencia r i) is

def EnCurso (s : Storage Hash) (f : Archivo) (hasta : Nat) : Prop :=
  ∃ c ∈ s.carpetas.lookup f.val, c.estado = .workInProgress ∧ hasta ≤ c.tamanio

instance (s : Storage Hash) (f : Archivo) (hasta : Nat) : Decidable (EnCurso s f hasta) :=
  inferInstanceAs (Decidable (∃ c ∈ _, _ ∧ _))

/-- A WRITE, READ or FLUSH within the limits of a File:Tag. -/
def DentroDeLimites (s : Storage Hash) : Instruccion → Prop
  | .write f base contenido =>
    cadena contenido ≠ [] ∧ EnCurso s f (base + (cadena contenido).length)
  | .read f base tamanio => 0 < tamanio ∧ EnCurso s f (base + tamanio.toNat)
  | .flush f => EnCurso s f 0
  | _ => False

instance (s : Storage Hash) : ∀ i, Decidable (DentroDeLimites s i)
  | .write _ _ _ => inferInstanceAs (Decidable (_ ∧ EnCurso _ _ _))
  | .read _ _ _ => inferInstanceAs (Decidable (_ ∧ EnCurso _ _ _))
  | .flush _ => inferInstanceAs (Decidable (EnCurso _ _ _))
  | .create _ | .truncate _ _ | .tag _ _ | .commit _ | .delete _ =>
    inferInstanceAs (Decidable False)

theorem flatMap_range_get {Value : Type*} {g : Nat → List Value} {largo : Nat} (n : Nat)
    (size : ∀ k < n, (g k).length = largo) :
    ((List.range n).flatMap g).length = n * largo ∧
      ∀ i < n * largo, ((List.range n).flatMap g)[i]? = (g (i / largo))[i % largo]? := by
  induction n with
  | zero => simp
  | succ n ih =>
    obtain ⟨total, at_⟩ := ih fun k hk => size k (by omega)
    have last := size n (by omega)
    have next := Nat.succ_mul n largo
    rw [List.range_succ, List.flatMap_append, List.flatMap_singleton]
    constructor
    · rw [List.length_append, total, last, next]
    · intro i hi
      by_cases before : i < n * largo
      · rw [List.getElem?_append_left (by omega), at_ i before]
      · rw [List.getElem?_append_right (by omega), total]
        have page : i / largo = n := Nat.div_eq_of_lt_le (by omega) (by omega)
        have parts := Nat.div_add_mod' i largo
        rw [page] at parts ⊢
        congr 1
        omega

theorem leerBloque_dentro (h : Consistente sb s) {c : Carpeta}
    (hc : s.carpetas.lookup f.val = some c) {k : Nat} (hk : k < sb.bloquesLogicos c.tamanio) :
    (leerBloque sb s f.val k).isSome = true := by
  have noBase : f.val ≠ initialFileBase := by
    intro base
    rw [base, h.sano.base] at hc
    cases hc
    rw [carpetaBase, bloquesLogicos_zero] at hk
    contradiction
  have agree := h.acorde f.val c hc
  have listed := agree.2 noBase
  have there : k < c.blocks.length := by omega
  rw [leerBloque_listado hc agree.1 ⟨by omega, by simpa using there⟩
    (List.getElem?_eq_getElem there)]
  rfl

theorem tamanio_le_bloques (sb : Superbloque) (tamanio : Nat) :
    tamanio ≤ sb.bloquesLogicos tamanio * sb.tamanioBloque := by
  have parts := Nat.div_add_mod' (tamanio + sb.tamanioBloque - 1) sb.tamanioBloque
  have rest := Nat.mod_lt (tamanio + sb.tamanioBloque - 1) sb.bloque_pos
  have pos := sb.bloque_pos
  simp only [Superbloque.bloquesLogicos]
  omega

theorem archivoPlano_get (h : Consistente sb s) {c : Carpeta}
    (hc : s.carpetas.lookup f.val = some c) :
    (archivoPlano sb s f).length = c.tamanio ∧
      ∀ i < c.tamanio, (archivoPlano sb s f)[i]? =
        (leerBloque sb s f.val (i / sb.tamanioBloque : Nat)).bind fun b =>
          b[i % sb.tamanioBloque]? := by
  have size : ∀ k < sb.bloquesLogicos c.tamanio,
      ((leerBloque sb s f.val k).getD []).length = sb.tamanioBloque := by
    intro k hk
    obtain ⟨bloque, hb⟩ := Option.isSome_iff_exists.mp (leerBloque_dentro h hc hk)
    rw [hb]
    exact leerBloque_length hb
  obtain ⟨total, at_⟩ := flatMap_range_get _ size
  have room := tamanio_le_bloques sb c.tamanio
  simp only [archivoPlano, hc]
  refine ⟨by rw [List.length_take, total]; omega, ?_⟩
  intro i hi
  rw [List.getElem?_take_of_lt hi, at_ i (by omega)]
  have page : i / sb.tamanioBloque < sb.bloquesLogicos c.tamanio :=
    Nat.div_lt_of_lt_mul (by rw [Nat.mul_comm]; omega)
  obtain ⟨bloque, hb⟩ := Option.isSome_iff_exists.mp (leerBloque_dentro h hc page)
  rw [hb]
  rfl

variable {n : Nodo (Storage Hash)} {r : Referencia}

/-- Nothing was rejected, and every byte of the reference is what the Worker sees there. -/
structure Imita (sb : Superbloque) (cfg : ConfigMemoria) (n : Nodo (Storage Hash))
    (r : Referencia) : Prop where
  firme : Firme (servidorStorage sb) cfg (Consistente sb) n
  dia : LruAlDia cfg n.mem
  ninguno : n.rechazados = []
  bytes : ∀ f i b, (r f)[i]? = some b → byteEn (servidorStorage sb) cfg n f i = some b

def EnReferencia (r : Referencia) : Instruccion → Prop
  | .write f base contenido =>
    cadena contenido ≠ [] ∧ base + (cadena contenido).length ≤ (r f).length
  | .read f base tamanio => 0 < tamanio ∧ base + tamanio.toNat ≤ (r f).length
  | .flush _ => True
  | _ => False

theorem imita_paginas (h : Imita sb cfg n r) {hasta : Nat} (inside : hasta ≤ (r f).length)
    (k : Nat) (hk : k * cfg.tamanioPagina < hasta) :
    (vista (servidorStorage sb) n (f, k)).isSome = true := by
  have byte := h.bytes f (k * cfg.tamanioPagina) _
    (List.getElem?_eq_getElem (Nat.lt_of_lt_of_le hk inside))
  rw [byteEn, Nat.mul_div_cancel _ cfg.pagina_pos] at byte
  obtain ⟨pagina, hv, _⟩ := Option.bind_eq_some_iff.mp byte
  rw [hv]
  rfl

theorem imita_write (size : cfg.tamanioPagina = sb.tamanioBloque) (h : Imita sb cfg n r)
    (base : Nat) (contenido : Bytes) (some_ : cadena contenido ≠ [])
    (inside : base + (cadena contenido).length ≤ (r f).length)
    (accepted : (executeWrite (servidorStorage sb) cfg n f base contenido).nodo.rechazados =
      n.rechazados) :
    Imita sb cfg (executeWrite (servidorStorage sb) cfg n f base contenido).nodo
      (Function.update r f (conParcial (r f) base (cadena contenido))) := by
  have fiel := storage_fiel Hash size
  have ninguno := accepted.trans h.ninguno
  have whole := sinPerdida_of_ninguno ninguno
  obtain ⟨_, _, dia⟩ := acceder_movimientos (servidorStorage sb) h.firme.ordenada h.dia f base
    (cadena contenido).length (some (cadena contenido))
  obtain ⟨firme, bytes⟩ := executeWrite_spec fiel h.firme h.dia f base contenido whole
  obtain ⟨_, all⟩ := acceder_completo fiel (firme_iff.mp h.firme) h.dia trivial base
    (fun nothing => some_ (List.length_eq_zero_iff.mp nothing)) (some (cadena contenido))
    (imita_paginas h inside) whole
  refine ⟨firme, dia, ninguno, ?_⟩
  have done : (executeWrite (servidorStorage sb) cfg n f base contenido).procesados =
    (cadena contenido).length := all
  rw [bytes, done, List.take_length]
  intro g i b hb
  by_cases hg : g = f
  · subst hg
    rw [Function.update_self, conParcial_get inside] at hb
    by_cases within : base ≤ i ∧ i < base + (cadena contenido).length
    · rw [if_pos within] at hb
      rw [sobrescribir, if_pos ⟨rfl, within⟩, hb]
    · rw [if_neg within] at hb
      rw [sobrescribir, if_neg fun h => within h.2, h.bytes g i b hb]
  · rw [Function.update_of_ne hg] at hb
    rw [sobrescribir, if_neg fun h => hg h.1, h.bytes g i b hb]

theorem imita_read (size : cfg.tamanioPagina = sb.tamanioBloque) (h : Imita sb cfg n r)
    (base : Nat) (tamanio : Int) (some_ : 0 < tamanio)
    (inside : base + tamanio.toNat ≤ (r f).length)
    (accepted : (executeRead (servidorStorage sb) cfg n f base tamanio).nodo.rechazados =
      n.rechazados) :
    let res := executeRead (servidorStorage sb) cfg n f base tamanio
    Imita sb cfg res.nodo r ∧ res.completo = true ∧
      res.leido = ((r f).drop base).take tamanio.toNat := by
  have fiel := storage_fiel Hash size
  have ninguno := accepted.trans h.ninguno
  have whole := sinPerdida_of_ninguno ninguno
  obtain ⟨_, _, dia⟩ := acceder_movimientos (servidorStorage sb) h.firme.ordenada h.dia f base
    tamanio.toNat none
  obtain ⟨firme, same, length_, bytes⟩ :=
    executeRead_spec fiel h.firme h.dia f base tamanio whole
  have some_ : tamanio.toNat ≠ 0 := by omega
  obtain ⟨complete, all⟩ := acceder_completo fiel (firme_iff.mp h.firme) h.dia trivial base
    some_ none (imita_paginas h inside) whole
  have done : (executeRead (servidorStorage sb) cfg n f base tamanio).procesados =
    tamanio.toNat := all
  rw [done] at length_ bytes
  refine ⟨⟨firme, dia, ninguno, ?_⟩, complete, ?_⟩
  · intro g i b hb
    rw [same]
    exact h.bytes g i b hb
  · apply List.ext_getElem?
    intro i
    by_cases hi : i < tamanio.toNat
    · have there : base + i < (r f).length := by omega
      rw [bytes i hi, List.getElem?_take_of_lt hi, List.getElem?_drop,
        List.getElem?_eq_getElem there]
      exact h.bytes f (base + i) _ (List.getElem?_eq_getElem there)
    · rw [List.getElem?_eq_none (by omega), List.getElem?_eq_none]
      rw [List.length_take]
      omega

theorem imita_flush (size : cfg.tamanioPagina = sb.tamanioBloque) (h : Imita sb cfg n r)
    (f : Archivo) (accepted : (executeFlush (servidorStorage sb) cfg n f).rechazados =
      n.rechazados) : Imita sb cfg (executeFlush (servidorStorage sb) cfg n f) r := by
  have ninguno := accepted.trans h.ninguno
  obtain ⟨firme, same, dia⟩ := executeFlush_spec (storage_fiel Hash size) h.firme h.dia
    f (sinPerdida_of_ninguno ninguno)
  refine ⟨firme, dia, ninguno, fun g i b hb => ?_⟩
  rw [same]
  exact h.bytes g i b hb

theorem imita_inicial (size : cfg.tamanioPagina = sb.tamanioBloque) (h : Consistente sb s) :
    Imita sb cfg ⟨crearMemoria cfg, s, []⟩ (archivoPlano sb s) := by
  refine ⟨firme_inicial cfg h, lruAlDia_crearMemoria cfg, rfl, ?_⟩
  intro f i b hb
  cases hc : s.carpetas.lookup f.val with
  | none => simp [archivoPlano, hc] at hb
  | some c =>
    obtain ⟨total, at_⟩ := archivoPlano_get h hc
    have inside : i < c.tamanio := by
      have := (List.getElem?_eq_some_iff.mp hb).1
      omega
    rw [at_ i inside, ← size] at hb
    exact hb

variable [DecidableEq Hash] {md5 : Bytes → Hash}

theorem imita_paso (size : cfg.tamanioPagina = sb.tamanioBloque) (h : Imita sb cfg n r)
    (i : Instruccion) (inside : EnReferencia r i) (accepted : SinRechazo sb md5 cfg n i) :
    Imita sb cfg (ejecutar sb md5 cfg n i) (trasReferencia r i) ∧
      lectura sb cfg n i = lecturaReferencia r i := by
  cases i with
  | write f base contenido =>
    exact ⟨imita_write size h base contenido inside.1 inside.2 accepted, rfl⟩
  | read f base tamanio =>
    obtain ⟨next, complete, bytes⟩ :=
      imita_read size h base tamanio inside.1 inside.2 accepted
    refine ⟨next, ?_⟩
    rw [lectura, if_pos complete, bytes]
    rfl
  | flush f => exact ⟨imita_flush size h f accepted, rfl⟩
  | create f => exact inside.elim
  | truncate f tamanio => exact inside.elim
  | tag origen destino => exact inside.elim
  | commit f => exact inside.elim
  | delete f => exact inside.elim

theorem trasReferencia_length (i : Instruccion) (inside : EnReferencia r i) (f : Archivo) :
    (trasReferencia r i f).length = (r f).length := by
  cases i with
  | write g base contenido =>
    by_cases hg : f = g
    · subst hg
      simp only [trasReferencia, Function.update_self]
      exact conParcial_length inside.2
    · simp only [trasReferencia, Function.update_of_ne hg]
  | _ => rfl

theorem enReferencia_congr {r' : Referencia} (same : ∀ f, (r' f).length = (r f).length)
    (i : Instruccion) (inside : EnReferencia r i) : EnReferencia r' i := by
  cases i with
  | write f base contenido => exact ⟨inside.1, by rw [same]; exact inside.2⟩
  | read f base tamanio => exact ⟨inside.1, by rw [same]; exact inside.2⟩
  | _ => exact inside

theorem lecturas_imita (size : cfg.tamanioPagina = sb.tamanioBloque) (is : List Instruccion) :
    ∀ (n : Nodo (Storage Hash)) (r : Referencia), Imita sb cfg n r →
      (∀ i ∈ is, EnReferencia r i) →
      Along (ejecutar sb md5 cfg) (SinRechazo sb md5 cfg) n is →
      lecturas sb md5 cfg n is = lecturasReferencia r is := by
  induction is with
  | nil => intro n r _ _ _; rfl
  | cons i is ih =>
    intro n r h inside accepted
    have first := inside i (by simp)
    obtain ⟨next, same⟩ := imita_paso size h i first accepted.1
    have rest := ih _ _ next (fun j hj => enReferencia_congr
      (trasReferencia_length i first) j (inside j (List.mem_cons_of_mem i hj))) accepted.2
    rw [lecturas, lecturasReferencia, same, rest]

def tresBloques : Storage Bytes :=
  trasPedidos discoDeSeis id [.crear a1, .truncar a1 3]

def unMarcoClock : ConfigMemoria := ⟨1, 1, .clockM, Nat.one_pos, Nat.one_pos⟩

/-- Both accesses span two pages, and each load evicts the page before it. -/
def dosAccesos : List Instruccion :=
  [.write archivoUno 0 [120, 121], .read archivoUno 0 2, .flush archivoUno,
    .read archivoUno 1 2]

theorem tresBloques_consistente : Consistente discoDeSeis tresBloques :=
  consistente_trasPedidos discoDeSeis (by decide)

end WorkerTransparencia
