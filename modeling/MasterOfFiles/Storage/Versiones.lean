import MasterOfFiles.Lib.Refinement
import MasterOfFiles.Storage.Contenidos
import MasterOfFiles.Storage.Aislamiento
import MasterOfFiles.Storage.Volcados

/-!
What Storage is for: every File:Tag is a size, a state and the contents of its logical blocks,
its own whatever blocks it shares on disk. The requests are written here on that alone, and the
operations on bitmap, links and metadata are shown to answer and to read as they say. All that
the disk adds is how many blocks are free when a request comes.
-/
namespace StorageVersiones
open StorageEstado StorageArchivos StorageEscritura StorageCommit StoragePrimitivas
open StoragePasos StoragePedidos StorageDeduplicacion StorageBloquesEnUso StorageAcuerdo
open StorageMovidas StorageEfectos StorageMetadata StorageContenidos StorageAislamiento
open StorageVolcados LinkDirectory FirstFit GuardedRuns Refinement

abbrev Bloque (sb : Superbloque) := {b : Bytes // b.length = sb.tamanioBloque}

variable {sb : Superbloque}

/-- As many bytes as a block has: the rest is cut, what is missing is zero. -/
def entero (sb : Superbloque) (b : Bytes) : Bloque sb :=
  ⟨b.take sb.tamanioBloque ++
    List.replicate (sb.tamanioBloque - (b.take sb.tamanioBloque).length) 0, by
      simp only [List.length_append, List.length_take, List.length_replicate]
      omega⟩

theorem entero_of_length {b : Bytes} (h : b.length = sb.tamanioBloque) :
    (entero sb b).val = b := by
  simp [entero, ← h]

@[ext]
structure Version (sb : Superbloque) where
  tamanio : Nat
  estado : EstadoArchivo
  contenidos : List (Bloque sb)
  cantidad : contenidos.length = sb.bloquesLogicos tamanio

namespace Version

def nueva : Version sb := ⟨0, .workInProgress, [], (bloquesLogicos_zero sb).symm⟩

def conEstado (v : Version sb) (estado : EstadoArchivo) : Version sb := { v with estado := estado }

def redimensionar (cero : Bloque sb) (v : Version sb) (tamanio : Nat) : Version sb where
  tamanio := tamanio
  estado := v.estado
  contenidos := v.contenidos.take (sb.bloquesLogicos tamanio) ++
    List.replicate (sb.bloquesLogicos tamanio - v.contenidos.length) cero
  cantidad := by
    simp only [List.length_append, List.length_take, List.length_replicate]
    omega

def poner (v : Version sb) (i : Nat) (b : Bloque sb) : Version sb where
  tamanio := v.tamanio
  estado := v.estado
  contenidos := v.contenidos.set i b
  cantidad := by rw [List.length_set, v.cantidad]

/-- Several blocks put one after the other: of two for one position the last stays. -/
def ponerCada (v : Version sb) (bloques : List (Nat × Bloque sb)) : Version sb :=
  bloques.foldl (fun v b => v.poner b.1 b.2) v

def ponerPaginas (v : Version sb) (paginas : List Pagina) : Version sb :=
  v.ponerCada (paginas.map fun p => (p.1.toNat, entero sb p.2))

def EnRango (v : Version sb) (k : Int) : Prop := 0 ≤ k ∧ k.toNat < v.contenidos.length

instance (v : Version sb) (k : Int) : Decidable (v.EnRango k) :=
  inferInstanceAs (Decidable (_ ∧ _))

def leer (v : Version sb) (k : Int) : Option (Bloque sb) :=
  if k < 0 then none else v.contenidos[k.toNat]?

end Version

abbrev Tienda (sb : Superbloque) := FileTag → Option (Version sb)

def Tienda.leer (t : Tienda sb) (f : FileTag) (k : Int) : Option Bytes :=
  (t f).bind fun v => (v.leer k).map Subtype.val

def Tienda.abierta (t : Tienda sb) (f : FileTag) : Option (Version sb) :=
  if esProtegido f then none else (t f).filter fun v => decide (v.estado ≠ .commited)

/-- A reply of error changes nothing, and one of success changes one File:Tag. -/
def Tienda.responder (t : Tienda sb) (f : FileTag) : Option (Version sb) → Bool × Tienda sb
  | none => (false, t)
  | some v => (true, Function.update t f (some v))

/-- The requests, each with the number of free blocks it finds. -/
def especificar (cero : Bloque sb) (t : Tienda sb) : Pedido × Nat → Bool × Tienda sb
  | (.crear f, _) => t.responder f (if (t f).isSome then none else some .nueva)
  | (.truncar f tamanio, _) =>
    t.responder f ((t.abierta f).map fun v => v.redimensionar cero tamanio)
  | (.tag origen destino, _) =>
    t.responder destino (if esProtegido origen ∨ (t destino).isSome then none
      else (t origen).map fun v => v.conEstado .workInProgress)
  | (.escribir f bloque contenido, libres) =>
    t.responder f (((t.abierta f).filter fun v => decide (v.EnRango bloque ∧ 0 < libres)).map
      fun v => v.poner bloque.toNat (entero sb (contenido.takeWhile (· ≠ 0))))
  | (.flush f paginas cantidad, libres) =>
    let pedidas := paginas.take cantidad.toNat
    t.responder f (((t.abierta f).filter fun v => decide ((∀ p ∈ pedidas, v.EnRango p.1) ∧
      cantidad.toNat ≤ paginas.length ∧ pedidas.length ≤ libres)).map
      fun v => v.ponerPaginas pedidas)
  | (.commit f, _) =>
    t.responder f (if esProtegido f then none else (t f).map fun v => v.conEstado .commited)
  | (.eliminar f, _) =>
    if esProtegido f ∨ (t f).isNone then (false, t) else (true, Function.update t f none)

variable {Hash : Type} {s s' : Storage Hash} {f g : FileTag} {c : Carpeta} {i b : Nat}

/-- What READ_BLOCK answers for logical block i, which it refuses outside TAMANIO. -/
def contenidoDe (sb : Superbloque) (s : Storage Hash) (f : FileTag) (i : Nat) : Bloque sb :=
  entero sb ((leerBloque sb s f i).getD [])

def version (sb : Superbloque) (s : Storage Hash) (f : FileTag) (c : Carpeta) : Version sb where
  tamanio := c.tamanio
  estado := c.estado
  contenidos := (List.range (sb.bloquesLogicos c.tamanio)).map (contenidoDe sb s f)
  cantidad := by simp

def vista (sb : Superbloque) (s : Storage Hash) : Tienda sb :=
  fun f => (s.carpetas.lookup f).map (version sb s f)

def libres (sb : Superbloque) (s : Storage Hash) : Nat :=
  (freeSlots sb.cantidadBloques s.bitmap).length

theorem vista_of_lookup (hc : s.carpetas.lookup f = some c) :
    vista sb s f = some (version sb s f c) := by
  simp [vista, hc]

theorem contenidoDe_of_leer {b : Bloque sb} (h : leerBloque sb s f i = some b.val) :
    contenidoDe sb s f i = b := by
  rw [contenidoDe, h]
  exact Subtype.ext (entero_of_length b.property)

theorem contenidoDe_congr (read : ∀ i : Nat, leerBloque sb s' g i = leerBloque sb s f i) :
    contenidoDe sb s' g = contenidoDe sb s f :=
  funext fun i => by rw [contenidoDe, contenidoDe, read]

theorem vista_congr (folder : s'.carpetas.lookup g = s.carpetas.lookup g)
    (read : ∀ k : Int, leerBloque sb s' g k = leerBloque sb s g k) :
    vista sb s' g = vista sb s g := by
  have same : version sb s' g = version sb s g := funext fun c => by
    simp only [version, contenidoDe_congr fun i : Nat => read i]
  rw [vista, vista, folder, same]

theorem contenidos_acorde (agree : Acorde sb f c) (noBase : f ≠ initialFileBase)
    (hc : s.carpetas.lookup f = some c) :
    (version sb s f c).contenidos = c.blocks.map fun b => entero sb (s.datos b) := by
  have len := agree.2 noBase
  refine List.ext_getElem? fun i => ?_
  simp only [version, ← len, List.getElem?_map]
  by_cases hi : i < c.blocks.length
  · have hb : c.blocks[i]? = some c.blocks[i] := List.getElem?_eq_getElem hi
    have range : EnRango sb c i := ⟨by omega, by simpa using hi⟩
    rw [List.getElem?_range hi, hb]
    exact congrArg some
      (contenidoDe_of_leer (leerBloque_listado hc agree.1 range hb))
  · rw [List.getElem?_eq_none (by simpa using hi), List.getElem?_eq_none (by simpa using hi)]
    rfl

theorem leer_fuera (hc : s.carpetas.lookup f = some c) {k : Int}
    (outside : k < 0 ∨ (sb.bloquesLogicos c.tamanio : Int) ≤ k) :
    leerBloque sb s f k = none ∧ (version sb s f c).leer k = none := by
  refine ⟨by simp only [leerBloque, hc, if_pos outside], ?_⟩
  unfold Version.leer
  split
  · rfl
  · refine List.getElem?_eq_none ((version sb s f c).cantidad.trans_le ?_)
    simp only [version]
    omega

theorem leer_version (agree : Acorde sb f c) (noBase : f ≠ initialFileBase)
    (hc : s.carpetas.lookup f = some c) (k : Int) :
    leerBloque sb s f k = ((version sb s f c).leer k).map Subtype.val := by
  by_cases outside : k < 0 ∨ (sb.bloquesLogicos c.tamanio : Int) ≤ k
  · obtain ⟨refused, beyond⟩ := leer_fuera hc outside
    rw [refused, beyond]
    rfl
  obtain ⟨i, rfl⟩ : ∃ i : Nat, k = i := ⟨k.toNat, by omega⟩
  have hi : i < c.blocks.length := by
    rw [agree.2 noBase]
    omega
  have hb : c.blocks[i]? = some c.blocks[i] := List.getElem?_eq_getElem hi
  rw [leerBloque_listado hc agree.1 ⟨outside, by simpa using hi⟩ hb, Version.leer,
    if_neg (by omega), contenidos_acorde agree noBase hc, Int.toNat_natCast, List.getElem?_map, hb]
  rfl

theorem leer_vista (all : MetadataAcorde sb s) (base : s.carpetas.lookup initialFileBase =
    some carpetaBase) (f : FileTag) (k : Int) :
    leerBloque sb s f k = (vista sb s).leer f k := by
  cases hc : s.carpetas.lookup f with
  | none => simp [leerBloque, Tienda.leer, vista, hc]
  | some c =>
    simp only [Tienda.leer, vista_of_lookup hc, Option.bind_some]
    by_cases onBase : f = initialFileBase
    · have same : c = carpetaBase := Option.some.inj ((onBase ▸ hc.symm).trans base)
      have empty : sb.bloquesLogicos c.tamanio = 0 := by
        rw [same]
        exact bloquesLogicos_zero sb
      have outside : k < 0 ∨ (sb.bloquesLogicos c.tamanio : Int) ≤ k := by omega
      obtain ⟨refused, beyond⟩ := leer_fuera hc outside
      rw [refused, beyond]
      rfl
    · exact leer_version (all f c hc) onBase hc k

theorem abierta_vista (open_ : Abierta s f c) :
    (vista sb s).abierta f = some (version sb s f c) := by
  have enCurso := open_.enCurso
  simp [Tienda.abierta, open_.libre, vista_of_lookup open_.esta, Option.filter, version, enCurso]

theorem abierta_vista_none (closed : ∀ c, ¬ Abierta s f c) : (vista sb s).abierta f = none := by
  rcases abierta_or s f with ⟨c, open_⟩ | hp | hc | ⟨c, hc, commited⟩
  · exact (closed c open_).elim
  · simp [Tienda.abierta, hp]
  · simp [Tienda.abierta, vista, hc]
  · simp [Tienda.abierta, vista_of_lookup hc, Option.filter, version, commited]

theorem cerrada_rechaza (closed : ∀ c, ¬ Abierta s f c) :
    (∀ tamanio, truncarFile sb s f tamanio = (false, s)) ∧
      (∀ bloque contenido, escribirBloque sb s f bloque contenido = (false, s)) ∧
      ∀ paginas cantidad, flushArchivo sb s f paginas cantidad = (false, s) := by
  rcases abierta_or s f with ⟨c, open_⟩ | hp | hc | ⟨c, hc, commited⟩
  · exact (closed c open_).elim
  · simp [truncarFile, escribirBloque, flushArchivo, hp]
  · simp [truncarFile, escribirBloque, flushArchivo, hc]
  · have state : verificarSiCommited s f = true := by simp [verificarSiCommited, hc, commited]
    simp [truncarFile, escribirBloque, flushArchivo, hc, state]

theorem enRango_version (agree : Acorde sb f c) (noBase : f ≠ initialFileBase) (k : Int) :
    (version sb s f c).EnRango k ↔ EnRango sb c k := by
  have len := agree.2 noBase
  simp only [Version.EnRango, EnRango, (version sb s f c).cantidad]
  simp only [version, not_or, Int.not_lt, Int.not_le, len]
  omega

theorem entero_contenidoDeCadena (contenido resto : Bytes) :
    entero sb (contenidoDeCadena sb contenido ++ resto) =
      entero sb (contenido.takeWhile (· ≠ 0)) := by
  refine Subtype.ext ?_
  simp only [contenidoDeCadena, entero]
  generalize contenido.takeWhile (fun b => decide (b ≠ 0)) = cadena
  rcases Nat.le_total sb.tamanioBloque cadena.length with long | short
  · rw [List.append_assoc, List.take_append_of_le_length long]
  · have whole : (cadena ++ List.replicate (sb.tamanioBloque - cadena.length) 0).length =
        sb.tamanioBloque := by
      simp only [List.length_append, List.length_replicate]
      omega
    rw [List.take_left' whole, whole, Nat.sub_self, List.take_of_length_le short,
      List.replicate_zero, List.append_nil]

theorem escribirBloque_hecho (fisicos : Fisicos s) (open_ : Abierta s f c) (listed : Listado c)
    {bloque : Int} (contenido : Bytes) (range : EnRango sb c bloque) {nuevo : Nat}
    (hn : firstFree sb.cantidadBloques s.bitmap = some nuevo) :
    (escribirBloque sb s f bloque contenido).1 = true ∧
      Movida sb s f c (c.blocks.set bloque.toNat nuevo) [(bloque.toNat, nuevo)]
        (escribirBloque sb s f bloque contenido).2 ∧
      entero sb ((escribirBloque sb s f bloque contenido).2.datos nuevo) =
        entero sb (contenido.takeWhile (· ≠ 0)) := by
  have closed : verificarSiCommited s f = false := by
    simp [verificarSiCommited, open_.esta, open_.enCurso]
  have inside := range.2
  obtain ⟨⟨b, hd, he⟩, copy⟩ :=
    escrituraDiferenciada_efecto (movida_refl open_.esta listed) fisicos listed open_.esta inside
  rcases copy with ⟨none_, _⟩ | ⟨nuevo', s₂, hn', run, moved⟩
  · rw [hn] at none_
    contradiction
  have same : nuevo' = nuevo := Option.some.inj (hn'.symm.trans hn)
  subst same
  simp only [escribirBloque, open_.libre, closed, open_.esta, Bool.false_eq_true, ↓reduceIte,
    if_neg range.1, if_neg (Nat.not_le.mpr inside), hd, if_neg (nlink_ne_one_of_link hd he), run]
  have saved := movida_guardarBlocks moved (c.blocks.set bloque.toNat nuevo')
  have final := movida_escribir saved (b := nuevo') (by simp) (contenidoDeCadena sb contenido)
  refine ⟨final.1, final.2, ?_⟩
  have there : (guardarBlocks s₂ f (c.blocks.set bloque.toNat nuevo')).existe nuevo' = true :=
    (saved.existe nuevo').mpr (.inr (by simp))
  simp only [escribirEnFinal, Storage.escribirFisico, there, ↓reduceIte, Function.update_self]
  exact entero_contenidoDeCadena contenido _

theorem ponerCada_tamanio (bloques : List (Nat × Bloque sb)) (v : Version sb) :
    (v.ponerCada bloques).tamanio = v.tamanio ∧ (v.ponerCada bloques).estado = v.estado := by
  induction bloques generalizing v with
  | nil => exact ⟨rfl, rfl⟩
  | cons b rest ih => exact ih (v.poner b.1 b.2)

theorem ponerCada_contenidos (leido : Nat → Bloque sb) (movs : List (Nat × Nat))
    (blocks : List Nat) (v : Version sb) (start : v.contenidos = blocks.map leido) :
    (v.ponerCada (movs.map fun m => (m.1, leido m.2))).contenidos =
      (ponerTodos blocks movs).map leido := by
  induction movs generalizing blocks v with
  | nil => exact start
  | cons m rest ih =>
    refine ih (blocks.set m.1 m.2) (v.poner m.1 (leido m.2)) ?_
    rw [List.map_set, ← start]
    rfl

theorem vista_ponerTodos {movs : List (Nat × Nat)} {l : Dir Nat Nat} (agree : Acorde sb f c)
    (noBase : f ≠ initialFileBase) (hc : s.carpetas.lookup f = some c)
    (after : s'.carpetas.lookup f = some ⟨c.tamanio, c.estado, ponerTodos c.blocks movs, l⟩)
    (at_ : ∀ j, l.lookup j = (ponerTodos c.blocks movs)[j]?)
    (data : ∀ b ∈ c.blocks, s'.datos b = s.datos b) :
    vista sb s' f = some ((version sb s f c).ponerCada
      (movs.map fun m => (m.1, entero sb (s'.datos m.2)))) := by
  obtain ⟨size, state⟩ := ponerCada_tamanio
    (movs.map fun m => (m.1, entero sb (s'.datos m.2))) (version sb s f c)
  have agree' : Acorde sb f ⟨c.tamanio, c.estado, ponerTodos c.blocks movs, l⟩ :=
    ⟨at_, fun noBase => (ponerTodos_length c.blocks movs).trans (agree.2 noBase)⟩
  refine (vista_of_lookup after).trans (congrArg some (Version.ext size.symm state.symm ?_))
  refine (contenidos_acorde agree' noBase after).trans
    (ponerCada_contenidos (fun b => entero sb (s'.datos b)) movs c.blocks _ ?_).symm
  rw [contenidos_acorde agree noBase hc]
  exact List.map_congr_left fun b hb => by rw [data b hb]

theorem vista_movida (h : Consistente sb s) (open_ : Abierta s f c) (movs : List (Nat × Nat))
    (moved : Movida sb s f c (ponerTodos c.blocks movs) movs s') :
    vista sb s' f = some ((version sb s f c).ponerCada
      (movs.map fun m => (m.1, entero sb (s'.datos m.2)))) := by
  have agree := h.acorde f c open_.esta
  obtain ⟨l, links, at_⟩ := moved.carpeta
  refine vista_ponerTodos agree (sin_proteger_ne_inicial open_.libre) open_.esta links.propia at_ ?_
  intro b hb
  -- a block that was in use was not taken
  have linked : s.bitmap b = true := by
    obtain ⟨i, hi⟩ := List.mem_iff_getElem?.mp hb
    exact h.uso f i b ((destino_listado agree.1 open_.esta i).trans hi)
  refine moved.datos b fun taken => ?_
  have free := mem_freeSlots.mp (moved.tomados ▸ List.mem_append_left _ taken)
  rw [linked] at free
  exact Bool.noConfusion free.2.2

variable [DecidableEq Hash] {md5 : Bytes → Hash} {cero : Bloque sb} {p : Pedido}
  {v : Version sb}

theorem alike_refused (refused : atender sb md5 s p = (false, s)) :
    (vista sb s).responder f none =
      ((atender sb md5 s p).1, vista sb (atender sb md5 s p).2) := by
  rw [refused]
  rfl

theorem vista_otra (sano : Sano sb s) (uso : EnUso s) (other : g ≠ p.objetivo) :
    vista sb (trasPedido sb md5 s p) g = vista sb s g := by
  obtain ⟨lookup, read⟩ := otro_objetivo_leerBloque md5 sano uso other
  exact vista_congr lookup read

theorem alike_accepted (sano : Sano sb s) (uso : EnUso s) (ok : (atender sb md5 s p).1 = true)
    (new : vista sb (trasPedido sb md5 s p) p.objetivo = some v) :
    (vista sb s).responder p.objetivo (some v) =
      ((atender sb md5 s p).1, vista sb (atender sb md5 s p).2) := by
  refine Prod.ext ok.symm (funext fun g => ?_)
  simp only [Tienda.responder, Function.update_apply]
  split
  · rename_i hg
    rw [hg]
    exact new.symm
  · rename_i hg
    exact (vista_otra sano uso hg).symm

theorem alike_crear (sano : Sano sb s) (uso : EnUso s) (f : FileTag) :
    Alike (atender sb md5) (especificar cero) (vista sb) (libres sb) s (.crear f) := by
  rcases crearFile_cases s f with ⟨c, hc, same⟩ | ⟨hc, made⟩
  · simp only [Alike, especificar, vista_of_lookup hc, Option.isSome_some, ↓reduceIte]
    exact alike_refused same
  · have absent : vista sb s f = none := by simp [vista, hc]
    simp only [Alike, especificar, absent, Option.isSome_none, Bool.false_eq_true, ↓reduceIte]
    refine alike_accepted (p := .crear f) sano uso (by rw [atender, made]) ?_
    rw [trasPedido, atender, made]
    refine (vista_of_lookup (lookup_ponerCarpeta s f f _ |>.trans (if_pos rfl))).trans ?_
    refine congrArg some (Version.ext rfl rfl ?_)
    simp [version, Version.nueva, bloquesLogicos_zero]

theorem alike_tag (sano : Sano sb s) (uso : EnUso s) (origen destino : FileTag) :
    Alike (atender sb md5) (especificar cero) (vista sb) (libres sb) s (.tag origen destino) := by
  simp only [Alike, especificar]
  cases hp : esProtegido origen with
  | true =>
    simp only [true_or, ↓reduceIte]
    exact alike_refused (by simp [atender, tagFile, hp])
  | false =>
    cases hd : s.carpetas.lookup destino with
    | some c' =>
      simp only [vista_of_lookup hd, Option.isSome_some, or_true, ↓reduceIte]
      refine alike_refused ?_
      cases ho : s.carpetas.lookup origen <;> simp [atender, tagFile, hp, ho, hd]
    | none =>
      have absent : vista sb s destino = none := by simp [vista, hd]
      simp only [absent, Option.isSome_none, Bool.false_eq_true, or_self, ↓reduceIte]
      cases ho : s.carpetas.lookup origen with
      | none =>
        have missing : vista sb s origen = none := by simp [vista, ho]
        rw [missing]
        exact alike_refused (by simp [atender, tagFile, hp, ho])
      | some c =>
        have made : atender sb md5 s (.tag origen destino) =
            (true, s.ponerCarpeta destino { c with estado := .workInProgress }) := by
          simp [atender, tagFile, hp, ho, hd]
        have new := (lookup_ponerCarpeta s destino destino
          { c with estado := .workInProgress }).trans (if_pos rfl)
        rw [vista_of_lookup ho]
        refine alike_accepted (p := .tag origen destino) sano uso (by rw [made]) ?_
        rw [trasPedido, made]
        refine (vista_of_lookup new).trans (congrArg some (Version.ext rfl rfl ?_))
        -- the copy lists and links what the origin does, and no block was written
        have read : ∀ i : Nat, leerBloque sb (s.ponerCarpeta destino
            { c with estado := .workInProgress }) destino i = leerBloque sb s origen i := by
          intro i
          simp only [leerBloque, new, ho]
          rfl
        simp only [version, Version.conEstado, contenidoDe_congr read]

/-- The contents that new logical blocks get: those of physical block 0. -/
def CeroEs (sb : Superbloque) (cero : Bloque sb) (s : Storage Hash) : Prop :=
  entero sb (s.datos 0) = cero

theorem alike_truncar (h : Consistente sb s) (zero : CeroEs sb cero s) (f : FileTag)
    (tamanio : Nat) :
    Alike (atender sb md5) (especificar cero) (vista sb) (libres sb) s (.truncar f tamanio) := by
  simp only [Alike, especificar]
  by_cases open_ : ∃ c, Abierta s f c
  · obtain ⟨c, open_⟩ := open_
    have noBase := sin_proteger_ne_inicial open_.libre
    have agree := h.acorde f c open_.esta
    obtain ⟨l, ok, links, list, freed⟩ := truncarFile_efecto h.sano.fisicos h.sano.rango
      (apta_cero (apta_debil h.sano)).1 open_.libre open_.esta open_.enCurso agree tamanio
    rw [abierta_vista open_]
    refine alike_accepted (p := .truncar f tamanio) h.sano h.uso ok ?_
    refine (vista_of_lookup links.propia).trans (congrArg some (Version.ext rfl rfl ?_))
    refine (contenidos_acorde ⟨list, fun _ => bloquesFinales_length _ _⟩ noBase
      links.propia).trans ?_
    simp only [Version.redimensionar, contenidos_acorde agree noBase open_.esta, bloquesFinales,
      List.map_append, List.map_take, List.map_replicate, List.length_map,
      freed.datos]
    rw [zero]
  · have closed : ∀ c, ¬ Abierta s f c := fun c oc => open_ ⟨c, oc⟩
    rw [abierta_vista_none closed]
    exact alike_refused ((cerrada_rechaza closed).1 tamanio)

theorem alike_escribir (h : Consistente sb s) (f : FileTag) (bloque : Int) (contenido : Bytes) :
    Alike (atender sb md5) (especificar cero) (vista sb) (libres sb) s
      (.escribir f bloque contenido) := by
  simp only [Alike, especificar]
  by_cases open_ : ∃ c, Abierta s f c
  swap
  · have closed : ∀ c, ¬ Abierta s f c := fun c oc => open_ ⟨c, oc⟩
    rw [abierta_vista_none closed]
    exact alike_refused ((cerrada_rechaza closed).2.1 bloque contenido)
  obtain ⟨c, open_⟩ := open_
  have noBase := sin_proteger_ne_inicial open_.libre
  have agree := h.acorde f c open_.esta
  rw [abierta_vista open_, Option.filter_some]
  simp only [enRango_version agree noBase, decide_eq_true_eq]
  by_cases room : EnRango sb c bloque ∧ 0 < libres sb s
  · obtain ⟨nuevo, hn⟩ : ∃ nuevo, firstFree sb.cantidadBloques s.bitmap = some nuevo := by
      rw [← Option.isSome_iff_exists, Option.isSome_iff_ne_none, ne_eq, firstFree_none,
        ← List.length_eq_zero_iff]
      exact Nat.pos_iff_ne_zero.mp room.2
    obtain ⟨ok, moved, data⟩ :=
      escribirBloque_hecho h.sano.fisicos open_ agree.1 contenido room.1 hn
    rw [if_pos room, Option.map_some]
    refine alike_accepted (p := .escribir f bloque contenido) h.sano h.uso ok ?_
    refine (vista_movida h open_ [(bloque.toNat, nuevo)] moved).trans ?_
    simp only [Version.ponerCada, List.map_cons, List.map_nil, List.foldl_cons, List.foldl_nil,
      data]
  · rw [if_neg room, Option.map_none]
    refine alike_refused ?_
    rcases escribirBloque_efecto sb h.sano.fisicos open_.libre open_.esta open_.enCurso agree.1
      bloque contenido with same | ⟨range, nuevo, hn, _⟩
    · exact same
    · refine (room ⟨range, List.length_pos_iff.mpr fun full => ?_⟩).elim
      rw [firstFree_none.mpr full] at hn
      contradiction

omit [DecidableEq Hash] in
theorem flushArchivo_entero (h : Consistente sb s) (open_ : Abierta s f c)
    {paginas : List Pagina} {cantidad : Int} (whole : FlushEntero sb s c paginas cantidad)
    (sizes : ∀ p ∈ paginas, p.2.length = sb.tamanioBloque) :
    let pedidas := paginas.take cantidad.toNat
    let s' := (flushArchivo sb s f paginas cantidad).2
    if (∀ p ∈ pedidas, EnRango sb c p.1) ∧ cantidad.toNat ≤ paginas.length ∧
        pedidas.length ≤ libres sb s then
      (flushArchivo sb s f paginas cantidad).1 = true ∧
        vista sb s' f = some ((version sb s f c).ponerPaginas pedidas)
    else (flushArchivo sb s f paginas cantidad).1 = false ∧
      vista sb s' f = some (version sb s f c) := by
  obtain ⟨moved, sub, range, full, ok, done, data, _⟩ := flushArchivo_efecto sb h.sano.fisicos
    open_.libre open_.esta open_.enCurso (h.acorde f c open_.esta).1 paginas cantidad
  dsimp only
  have fewer : moved.length ≤ libres sb s := by
    have taken := congrArg List.length done.tomados
    simp only [List.length_append, List.length_map] at taken
    exact (Nat.le_add_right _ _).trans taken.ge
  split
  · rename_i fits
    have all : moved.map Prod.fst = paginas.take cantidad.toNat := by
      rcases full fits.1 with all | empty
      · exact all
      · refine sub.eq_of_length_le ?_
        have taken := congrArg List.length done.tomados
        simp only [empty, List.append_nil, List.length_map] at taken
        rw [List.length_map, ← taken]
        exact fits.2.2
    have accepted := ok.mpr ⟨all, fits.2.1⟩
    refine ⟨accepted, ?_⟩
    rw [if_pos accepted] at done
    refine (vista_movida h open_ _ done).trans (congrArg some ?_)
    rw [Version.ponerPaginas, ← all, List.map_map, List.map_map]
    refine congrArg _ (List.map_congr_left fun m hm => Prod.ext rfl (Subtype.ext ?_))
    have size := sizes m.1 (List.take_subset _ _ (all ▸ List.mem_map_of_mem hm))
    have held := data accepted sizes m hm
    simp only [Function.comp_apply, movimiento, entero, held, size, List.take_of_length_le size.le]
  · rename_i unfit
    have rejected : (flushArchivo sb s f paginas cantidad).1 = false := by
      by_contra accepted
      obtain ⟨all, enough⟩ := ok.mp (by simpa using accepted)
      refine unfit ⟨fun p hp => ?_, enough, by simpa [← all] using fewer⟩
      obtain ⟨m, hm, rfl⟩ := List.mem_map.mp (all ▸ hp)
      exact range m hm
    refine ⟨rejected, ?_⟩
    have still : moved = [] := by
      rcases whole with fits | outside | noSpace
      · exact (unfit fits).elim
      · cases moved with
        | nil => rfl
        | cons m rest => exact (outside m.1 (sub.subset (by simp)) (range m (by simp))).elim
      · rw [libres, noSpace] at fewer
        exact List.length_eq_zero_iff.mp (Nat.le_zero.mp fewer)
    rw [rejected, if_neg Bool.false_ne_true, still] at done
    exact vista_movida h open_ [] done

def PaginasEnteras (sb : Superbloque) : Pedido → Prop
  | .flush _ paginas _ => ∀ p ∈ paginas, p.2.length = sb.tamanioBloque
  | _ => True

theorem alike_flush (h : Consistente sb s) {paginas : List Pagina} {cantidad : Int}
    (whole : PedidoEntero sb md5 s (.flush f paginas cantidad))
    (sizes : ∀ p ∈ paginas, p.2.length = sb.tamanioBloque) :
    Alike (atender sb md5) (especificar cero) (vista sb) (libres sb) s
      (.flush f paginas cantidad) := by
  simp only [Alike, especificar]
  by_cases open_ : ∃ c, Abierta s f c
  swap
  · have closed : ∀ c, ¬ Abierta s f c := fun c oc => open_ ⟨c, oc⟩
    rw [abierta_vista_none closed]
    exact alike_refused ((cerrada_rechaza closed).2.2 paginas cantidad)
  obtain ⟨c, open_⟩ := open_
  have noBase := sin_proteger_ne_inicial open_.libre
  have agree := h.acorde f c open_.esta
  have served := flushArchivo_entero h open_ (whole open_.libre c open_.esta open_.enCurso) sizes
  rw [abierta_vista open_, Option.filter_some]
  simp only [enRango_version agree noBase, decide_eq_true_eq]
  dsimp only at served
  split at served
  · rename_i fits
    rw [if_pos fits, Option.map_some]
    exact alike_accepted (p := .flush f paginas cantidad) h.sano h.uso served.1 served.2
  · rename_i unfit
    rw [if_neg unfit, Option.map_none]
    refine Prod.ext served.1.symm (funext fun g => ?_)
    by_cases hg : g = f
    · rw [hg]
      exact (vista_of_lookup open_.esta).trans served.2.symm
    · exact (vista_otra (p := .flush f paginas cantidad) h.sano h.uso hg).symm

theorem alike_commit (h : Consistente sb s) (injective : Function.Injective md5)
    (truth : IndiceCierto sb md5 s) (f : FileTag) :
    Alike (atender sb md5) (especificar cero) (vista sb) (libres sb) s (.commit f) := by
  simp only [Alike, especificar]
  cases hp : esProtegido f with
  | true => exact alike_refused (by simp [atender, realizarCommit, hp])
  | false =>
  cases hc : s.carpetas.lookup f with
  | none =>
    have absent : vista sb s f = none := by simp [vista, hc]
    rw [absent]
    exact alike_refused (by simp [atender, realizarCommit, hp, hc])
  | some c =>
  rw [vista_of_lookup hc]
  by_cases closed : c.estado = .commited
  · have still : atender sb md5 s (.commit f) = (true, s) := by
      simp [atender, realizarCommit, hp, hc, closed]
    refine alike_accepted (p := .commit f) h.sano h.uso (by rw [still]) ?_
    rw [trasPedido, still]
    exact (vista_of_lookup hc).trans (congrArg some (Version.ext rfl closed rfl))
  · obtain ⟨ok, done⟩ := realizarCommit_hecho md5 h.sano.rango hp hc closed
    obtain ⟨l, hl, _⟩ := done.carpeta
    refine alike_accepted (p := .commit f) h.sano h.uso ok ?_
    refine (vista_of_lookup hl).trans (congrArg some (Version.ext rfl rfl ?_))
    -- the blocks listed now hold what the ones listed before did
    have read : ∀ i : Nat, leerBloque sb (realizarCommit sb md5 s f).2 f i = leerBloque sb s f i :=
      fun i => leerBloque_commit (fun _ hb => datos_nuevoBloque injective truth hb)
        (h.acorde f c hc) hc done
    exact congrArg (List.map · _) (contenidoDe_congr read)

theorem alike_eliminar (h : Consistente sb s) (f : FileTag) :
    Alike (atender sb md5) (especificar cero) (vista sb) (libres sb) s (.eliminar f) := by
  simp only [Alike, especificar]
  cases hp : esProtegido f with
  | true =>
    simp only [true_or, ↓reduceIte]
    exact alike_refused (f := f) (by simp [atender, eliminarFileTag, hp])
  | false =>
  cases hc : s.carpetas.lookup f with
  | none =>
    have absent : vista sb s f = none := by simp [vista, hc]
    simp only [absent, Option.isNone_none, or_true, ↓reduceIte]
    exact alike_refused (f := f) (by simp [atender, eliminarFileTag, hp, hc])
  | some c =>
    have agree : Acorde sb f c := h.acorde f c hc
    obtain ⟨ok, folders, _⟩ := eliminarFileTag_efecto (s := s) h.sano.fisicos hp hc agree.1
    simp only [vista_of_lookup hc, Option.isNone_some, Bool.false_eq_true, or_self, ↓reduceIte]
    refine Prod.ext ok.symm (funext fun g => ?_)
    simp only [Function.update_apply]
    split
    · rename_i hg
      rw [hg]
      exact (congrArg (Option.map _) ((folders f).trans (if_pos rfl))).symm
    · rename_i hg
      exact (vista_otra (p := .eliminar f) h.sano h.uso hg).symm

structure Reflejada (sb : Superbloque) (md5 : Bytes → Hash) (cero : Bloque sb)
    (s : Storage Hash) : Prop where
  consistente : Consistente sb s
  indice : IndiceCierto sb md5 s
  ceros : CeroEs sb cero s

/-- The request keeps bitmap, links, metadata and index together, and its pages are whole. -/
def PedidoApto (sb : Superbloque) (md5 : Bytes → Hash) (s : Storage Hash) (p : Pedido) : Prop :=
  PedidoSeguro sb md5 s p ∧ PedidoVeraz sb md5 s p ∧ PaginasEnteras sb p

instance (sb : Superbloque) : ∀ p, Decidable (PaginasEnteras sb p)
  | .flush _ _ _ => inferInstanceAs (Decidable (∀ p ∈ _, _))
  | .crear _ | .truncar _ _ | .tag _ _ | .escribir _ _ _ | .commit _ | .eliminar _ =>
    inferInstanceAs (Decidable True)

instance (sb : Superbloque) (md5 : Bytes → Hash) (s : Storage Hash) (p : Pedido) :
    Decidable (PedidoApto sb md5 s p) :=
  inferInstanceAs (Decidable (_ ∧ _ ∧ _))

theorem alike_atender (injective : Function.Injective md5) (s : Storage Hash) (p : Pedido)
    (h : Reflejada sb md5 cero s) (guard : PedidoApto sb md5 s p) :
    Alike (atender sb md5) (especificar cero) (vista sb) (libres sb) s p := by
  have whole := h.consistente
  cases p with
  | crear f => exact alike_crear whole.sano whole.uso f
  | truncar f tamanio => exact alike_truncar whole h.ceros f tamanio
  | tag origen destino => exact alike_tag whole.sano whole.uso origen destino
  | escribir f bloque contenido => exact alike_escribir whole f bloque contenido
  | flush f paginas cantidad =>
    exact alike_flush whole (pedidoEntero_of_veraz _ guard.2.1) guard.2.2
  | commit f => exact alike_commit whole injective h.indice f
  | eliminar f => exact alike_eliminar whole f

theorem datos_cero (p : Pedido) (sano : Sano sb s) (all : MetadataAcorde sb s) :
    (trasPedido sb md5 s p).datos 0 = s.datos 0 := by
  have kept : ∀ {f c blocks movs} {s' : Storage Hash},
      Movida sb s f c blocks movs s' → s'.datos 0 = s.datos 0 := by
    intro f c blocks movs s' moved
    refine moved.datos 0 fun taken => ?_
    have free := mem_freeSlots.mp (moved.tomados ▸ List.mem_append_left _ taken)
    exact Nat.not_succ_le_zero 0 free.1
  have effect := trasPedido_efecto md5 p sano all
  generalize trasPedido sb md5 s p = s' at effect
  cases effect with
  | nada | crear | tag => rfl
  | truncar f tamanio c open_ l s' links list freed => rw [freed.datos]
  | escribir f bloque contenido c open_ range nuevo s' moved => exact kept moved
  | flush f paginas cantidad c open_ =>
    obtain ⟨moved, _, _, _, _, done, _⟩ := flushArchivo_efecto sb sano.fisicos open_.libre
      open_.esta open_.enCurso (all f c open_.esta).1 paginas cantidad
    exact kept done
  | commit f c open_ s' done => rw [done.datos]
  | eliminar f c hp hc s' folders freed => rw [freed.datos]

theorem reflejada_trasPedido (s : Storage Hash) (p : Pedido) (h : Reflejada sb md5 cero s)
    (guard : PedidoApto sb md5 s p) : Reflejada sb md5 cero (trasPedido sb md5 s p) := by
  have whole := h.consistente
  refine ⟨consistente_trasPedido md5 p whole ⟨guard.1, pedidoEntero_of_veraz p guard.2.1⟩,
    indiceCierto_trasPedido p whole.sano whole.acorde h.indice guard.2.1, ?_⟩
  rw [CeroEs, datos_cero p whole.sano whole.acorde]
  exact h.ceros

def bloqueDeCeros (sb : Superbloque) : Bloque sb :=
  ⟨List.replicate sb.tamanioBloque 48, List.length_replicate⟩

def tiendaInicial (sb : Superbloque) : Tienda sb :=
  fun f => if f = initialFileBase then some (Version.nueva.conEstado .commited) else none

omit [DecidableEq Hash] in
theorem vista_formatearFs (sb : Superbloque) :
    vista sb (formatearFs sb : Storage Hash) = tiendaInicial sb := by
  funext f
  simp only [vista, tiendaInicial, lookup_formatearFs]
  split
  · refine congrArg some (Version.ext rfl rfl ?_)
    simp [version, carpetaBase, bloquesLogicos_zero, Version.conEstado, Version.nueva]
  · rfl

theorem reflejada_formatearFs (sb : Superbloque) (md5 : Bytes → Hash) :
    Reflejada sb md5 (bloqueDeCeros sb) (formatearFs sb : Storage Hash) := by
  refine ⟨consistente_formatearFs sb, indiceCierto_formatearFs sb md5, Subtype.ext ?_⟩
  exact entero_of_length (List.length_replicate)

/-- Along any run of requests that suit the disk, Storage replies as the File:Tags do, which
    are told how many blocks are free at each request, and READ_BLOCK gives what they hold. -/
theorem storage_refina_versiones (injective : Function.Injective md5) {ps : List Pedido}
    (suited : Along (trasPedido sb md5) (PedidoApto sb md5) (formatearFs sb) ps) :
    let pedidos := noted (atender sb md5) (libres sb) (formatearFs sb) ps
    let t := after (especificar (bloqueDeCeros sb)) (tiendaInicial sb) pedidos
    replies (atender sb md5) (formatearFs sb) ps =
        replies (especificar (bloqueDeCeros sb)) (tiendaInicial sb) pedidos ∧
      vista sb (trasPedidos sb md5 ps) = t ∧
      ∀ f k, leerBloque sb (trasPedidos sb md5 ps) f k = t.leer f k := by
  obtain ⟨same, final⟩ := refines_run (Reflejada sb md5 (bloqueDeCeros sb))
    reflejada_trasPedido (alike_atender injective) (reflejada_formatearFs sb md5) suited
  rw [vista_formatearFs] at same final
  have reached : Reflejada sb md5 (bloqueDeCeros sb) (trasPedidos sb md5 ps) :=
    invariant_guarded_run _ reflejada_trasPedido (reflejada_formatearFs sb md5) suited
  refine ⟨same.symm, final.symm, fun f k => ?_⟩
  rw [final]
  exact leer_vista reached.consistente.acorde reached.consistente.sano.base f k

def copiaEscrita : List Pedido :=
  nuevoCon b1 120 ++ [.tag b1 b2, .flush b2 [(0, [121])] 1, .commit b1, .escribir b1 0 [122]]

theorem storage_refina_versiones_copia :
    let t := after (especificar (bloqueDeCeros discoDeSeis)) (tiendaInicial discoDeSeis)
      (noted (atender discoDeSeis id) (libres discoDeSeis) (formatearFs discoDeSeis) copiaEscrita)
    ∀ f k, leerBloque discoDeSeis (trasPedidos discoDeSeis id copiaEscrita) f k = t.leer f k :=
  (storage_refina_versiones Function.injective_id (by decide)).2.2

end StorageVersiones
