import MasterOfFiles.Storage.Tomas
import MasterOfFiles.Lib.IntCeiling

/-!
TRUNCATE on the ints of the code. The size is any 32-bit int, the block counts are the
wrapping quotients and the loops run over them. `fuera` is what memory holds outside
array_bloques_fisico, `cupo` how many more links to block 0 the file system accepts. Names are
simple ones (Nombre).
-/
namespace StorageTruncados
open StorageEstado StorageArchivos StorageEscritura StoragePrimitivas StoragePasos
open StoragePedidos StorageDeduplicacion StorageAcuerdo StorageEfectos StorageTomas
open LinkDirectory IntCeiling

variable {Hash : Type}

/-- What a call of truncar_file did: indices of array_bloques_fisico read, logical blocks
    linked and unlinked, TAMANIO and BLOCKS saved, and the disk before that. -/
structure Truncado (Hash : Type) where
  exito : Bool
  leidos : List Int
  creados : List Int
  quitados : List Int
  guardado : Option (Int × List Nat)
  disco : Storage Hash

structure Crecida (Hash : Type) where
  exito : Bool
  creados : List Int
  disco : Storage Hash

/-- link(2) of block 0 to logical block i. No File:Tag reached has a block with a negative
    name, so such a link only needs block 0. -/
def enlazarCero (f : FileTag) (i : Int) (s : Storage Hash) : Option (Storage Hash) :=
  if i < 0 then (if s.existe 0 then some s else none) else s.enlazar 0 f i.toNat

def crecer (f : FileTag) : Nat → Nat → Int → Storage Hash → Crecida Hash
  | 0, _, _, s => ⟨true, [], s⟩
  | _ + 1, 0, _, s => ⟨false, [], s⟩
  | n + 1, cupo + 1, i, s =>
    match enlazarCero f i s with
    | none => ⟨false, [], s⟩
    | some s' =>
      let resto := crecer f n cupo (i + 1) s'
      { resto with creados := i :: resto.creados }

structure Achique (Hash : Type) where
  leidos : List Int
  quitados : List Int
  disco : Storage Hash

/-- array_bloques_fisico[i]; the array is NULL when BLOCKS is empty. -/
def leerArray (bloques : List Nat) (fuera : Int → Int) (i : Int) : List Int × Int :=
  if bloques ≠ [] ∧ i < bloques.length then
    ([i], if i < 0 then fuera i else (bloques.getD i.toNat 0 : Nat))
  else ([], 0)

def quitar (sb : Superbloque) (f : FileTag) (bloques : List Nat) (fuera : Int → Int) (i : Int)
    (s : Storage Hash) : Achique Hash :=
  let lectura := leerArray bloques fuera i
  let esta := 0 ≤ i ∧ (s.destino f i.toNat).isSome = true
  let suelto := if esta then (s.desenlazar f i.toNat).getD s else s
  let fisico := lectura.2
  ⟨lectura.1, if esta then [i] else [],
    if 0 ≤ fisico ∧ suelto.existe fisico.toNat = true ∧ suelto.nlink fisico.toNat = 1
    then suelto.marcarBloqueLibre sb fisico.toNat else suelto⟩

def achicar (sb : Superbloque) (f : FileTag) (bloques : List Nat) (fuera : Int → Int) :
    Nat → Int → Storage Hash → Achique Hash
  | 0, _, s => ⟨[], [], s⟩
  | n + 1, i, s =>
    let vuelta := quitar sb f bloques fuera i s
    let resto := achicar sb f bloques fuera n (i - 1) vuelta.disco
    ⟨vuelta.leidos ++ resto.leidos, vuelta.quitados ++ resto.quitados, resto.disco⟩

def rechazado (s : Storage Hash) : Truncado Hash := ⟨false, [], [], [], none, s⟩

/-- truncar_file from the two block counts on; the rebuilt list copies the entries 0, 1, ...
    that both sizes have. -/
def cambiarTamanio (sb : Superbloque) (fuera : Int → Int) (cupo : Nat) (s : Storage Hash)
    (f : FileTag) (c : Carpeta) (nuevoTamanio actuales nuevos : Int) : Truncado Hash :=
  let crecida := crecer f (nuevos - actuales).toNat cupo actuales s
  if crecida.exito = false then ⟨false, [], crecida.creados, [], none, crecida.disco⟩
  else
    let achique := achicar sb f c.blocks fuera (actuales - nuevos).toNat (actuales - 1)
      crecida.disco
    let copiados := (List.range (min c.blocks.length nuevos.toNat)).map Int.ofNat
    ⟨true, achique.leidos ++ copiados, crecida.creados, achique.quitados,
      some (nuevoTamanio, bloquesFinales c.blocks nuevos.toNat), achique.disco⟩

def truncarFile32 (sb : Superbloque) (fuera : Int → Int) (cupo : Nat) (s : Storage Hash)
    (f : FileTag) (nuevoTamanio : Int32) : Truncado Hash :=
  if esProtegido f then rechazado s
  else if verificarSiCommited s f then rechazado s
  else match s.carpetas.lookup f with
  | none => rechazado s
  | some c =>
    cambiarTamanio sb fuera cupo s f c nuevoTamanio.toInt
      (ceilDiv (Int32.ofNat c.tamanio) (Int32.ofNat sb.tamanioBloque))
      (ceilDiv nuevoTamanio (Int32.ofNat sb.tamanioBloque))

/-- What TRUNCATE should guarantee for every size. -/
structure Seguro (sb : Superbloque) (s : Storage Hash) (f : FileTag) (t : Truncado Hash) :
    Prop where
  leidos : ∀ i ∈ t.leidos, 0 ≤ i ∧ ∃ c, s.carpetas.lookup f = some c ∧ i < c.blocks.length
  creados : ∀ i ∈ t.creados, 0 ≤ i
  quitados : ∀ i ∈ t.quitados, 0 ≤ i
  aceptado : t.exito = true → ∃ tamanio : Nat, ∃ blocks, t.guardado = some (↑tamanio, blocks) ∧
    blocks.length = sb.bloquesLogicos tamanio
  rechazado : t.exito = false → t.guardado = none ∧
    t.disco.carpetas.lookup f = s.carpetas.lookup f

variable {sb : Superbloque} {s s' : Storage Hash} {f : FileTag} {c : Carpeta}
  {l : Dir Nat Nat}

theorem enlazarCero_natCast (f : FileTag) (i : Nat) (s : Storage Hash) :
    enlazarCero f i s = s.enlazar 0 f i := by
  rw [enlazarCero, if_neg (by omega), Int.toNat_natCast]

theorem crecer_natCast (f : FileTag) (n : Nat) : ∀ (cupo i : Nat) (s : Storage Hash), n ≤ cupo →
    (crecer f n cupo i s).exito = (enlazarCeros f n i s).1 ∧
      (crecer f n cupo i s).disco = (enlazarCeros f n i s).2 ∧
      ∀ j ∈ (crecer f n cupo i s).creados, 0 ≤ j := by
  induction n with
  | zero => intro cupo i s _; simp [crecer, enlazarCeros]
  | succ n ih =>
    intro cupo i s room
    obtain ⟨cupo, rfl⟩ := Nat.exists_eq_succ_of_ne_zero (by omega : cupo ≠ 0)
    simp only [crecer, enlazarCero_natCast, enlazarCeros]
    cases h : s.enlazar 0 f i with
    | none => simp
    | some s' =>
      obtain ⟨same, disk, natural⟩ := ih cupo (i + 1) s' (by omega)
      refine ⟨same, disk, ?_⟩
      intro j hj
      rcases List.mem_cons.mp hj with rfl | later
      · omega
      · exact natural j later

theorem leerArray_natCast (bloques : List Nat) (fuera : Int → Int) (i : Nat) :
    (leerArray bloques fuera i).2 = (bloques.getD i 0 : Nat) ∧
      ∀ j ∈ (leerArray bloques fuera i).1, 0 ≤ j ∧ j < bloques.length := by
  unfold leerArray
  split
  · rename_i inside
    simp only [Int.toNat_natCast, List.mem_singleton, forall_eq]
    rw [if_neg (by omega)]
    exact ⟨rfl, by omega, inside.2⟩
  · rename_i outside
    have beyond : bloques.length ≤ i := by
      cases bloques with
      | nil => simp
      | cons b rest =>
        simp only [ne_eq, reduceCtorEq, not_false_eq_true, true_and] at outside
        omega
    simp [List.getElem?_eq_none beyond]

theorem quitar_natCast (sb : Superbloque) (f : FileTag) (bloques : List Nat) (fuera : Int → Int)
    (i : Nat) (s : Storage Hash) :
    (quitar sb f bloques fuera i s).disco = quitarBloque sb f bloques i s ∧
      (∀ j ∈ (quitar sb f bloques fuera i s).leidos, 0 ≤ j ∧ j < bloques.length) ∧
      ∀ j ∈ (quitar sb f bloques fuera i s).quitados, 0 ≤ j := by
  obtain ⟨value, inside⟩ := leerArray_natCast bloques fuera i
  refine ⟨?_, inside, ?_⟩
  · have unlinked : (if (0 : Int) ≤ i ∧ (s.destino f (i : Int).toNat).isSome = true then
        (s.desenlazar f (i : Int).toNat).getD s else s) = (s.desenlazar f i).getD s := by
      rw [Int.toNat_natCast]
      split
      · rfl
      · rename_i missing
        have none_ : s.destino f i = none := by
          simpa using fun h => missing ⟨Int.natCast_nonneg i, h⟩
        rw [desenlazar_none.mpr none_]
        rfl
    simp only [quitar, quitarBloque]
    rw [unlinked, value]
    simp
  · intro j hj
    simp only [quitar] at hj
    split at hj
    · rw [List.mem_singleton.mp hj]
      exact Int.natCast_nonneg i
    · contradiction

theorem achicar_natCast (sb : Superbloque) (f : FileTag) (bloques : List Nat)
    (fuera : Int → Int) (desde n : Nat) : ∀ s : Storage Hash,
    (achicar sb f bloques fuera n ((desde + n : Nat) - 1 : Int) s).disco =
        quitarBloques sb f bloques desde n s ∧
      (∀ j ∈ (achicar sb f bloques fuera n ((desde + n : Nat) - 1 : Int) s).leidos,
        0 ≤ j ∧ j < bloques.length) ∧
      ∀ j ∈ (achicar sb f bloques fuera n ((desde + n : Nat) - 1 : Int) s).quitados, 0 ≤ j := by
  induction n with
  | zero => intro s; simp [achicar, quitarBloques]
  | succ n ih =>
    intro s
    have index : ((desde + (n + 1) : Nat) - 1 : Int) = (desde + n : Nat) := by omega
    rw [index]
    obtain ⟨disk, read, removed⟩ := quitar_natCast sb f bloques fuera (desde + n) s
    obtain ⟨rest, later, gone⟩ := ih (quitarBloque sb f bloques (desde + n) s)
    simp only [achicar, quitarBloques, disk]
    refine ⟨rest, ?_, ?_⟩
    · intro j hj
      exact (List.mem_append.mp hj).elim (read j) (later j)
    · intro j hj
      exact (List.mem_append.mp hj).elim (removed j) (gone j)

theorem achicar_entre (sb : Superbloque) (f : FileTag) (bloques : List Nat) (fuera : Int → Int)
    (desde hasta : Nat) (s : Storage Hash) :
    (achicar sb f bloques fuera (hasta - desde) (hasta - 1 : Int) s).disco =
        quitarBloques sb f bloques desde (hasta - desde) s ∧
      (∀ j ∈ (achicar sb f bloques fuera (hasta - desde) (hasta - 1 : Int) s).leidos,
        0 ≤ j ∧ j < bloques.length) ∧
      ∀ j ∈ (achicar sb f bloques fuera (hasta - desde) (hasta - 1 : Int) s).quitados,
        0 ≤ j := by
  by_cases order : desde ≤ hasta
  · have turns := achicar_natCast sb f bloques fuera desde (hasta - desde) s
    rwa [Nat.add_sub_of_le order] at turns
  · have none_ : hasta - desde = 0 := by omega
    simp [none_, achicar, quitarBloques]

def Bajo (n : Nat) (l : Dir Nat Nat) : Prop := ∀ i b, l.lookup i = some b → i < n

theorem enlazar_siguiente (hl : s.carpetas.lookup f = some { c with logicos := l })
    (cero : s.existe 0 = true) {i : Nat} (low : Bajo i l) :
    s.enlazar 0 f i = some (s.ponerCarpeta f { c with logicos := l.insert i 0 }) ∧
      Bajo (i + 1) (l.insert i 0) := by
  have free : l.lookup i = none := by
    cases h : l.lookup i with
    | none => rfl
    | some b => exact absurd (low i b h) (lt_irrefl i)
  refine ⟨enlazar_eq_some hl cero free, ?_⟩
  intro j b hj
  rw [lookup_insert_ite] at hj
  split at hj
  · omega
  · have := low j b hj
    omega

theorem enlazarCeros_crece (n : Nat) : ∀ (i : Nat) (s : Storage Hash) (l : Dir Nat Nat),
    s.carpetas.lookup f = some { c with logicos := l } → s.existe 0 = true → Bajo i l →
    (enlazarCeros f n i s).1 = true ∧
      ∃ l', (enlazarCeros f n i s).2.carpetas.lookup f = some { c with logicos := l' } ∧
        Bajo (i + n) l' := by
  induction n with
  | zero => intro i s l hl _ low; exact ⟨rfl, l, hl, low⟩
  | succ n ih =>
    intro i s l hl cero low
    obtain ⟨linked, low'⟩ := enlazar_siguiente hl cero low
    obtain ⟨done, l', hl', below⟩ := ih (i + 1)
      (s.ponerCarpeta f { c with logicos := l.insert i 0 }) (l.insert i 0)
      (by rw [lookup_ponerCarpeta, if_pos rfl]) cero low'
    simp only [enlazarCeros, linked]
    refine ⟨done, l', hl', ?_⟩
    intro j b hj
    have := below j b hj
    omega

theorem quitarBloque_baja (sb : Superbloque) (bloques : List Nat) {i : Nat}
    (hl : s.carpetas.lookup f = some { c with logicos := l }) (low : Bajo (i + 1) l) :
    ∃ l', (quitarBloque sb f bloques i s).carpetas.lookup f = some { c with logicos := l' } ∧
      Bajo i l' := by
  obtain ⟨l', hl', same⟩ := quitarBloque_links sb bloques i hl
  have gone : l'.lookup i = none := by
    have read := destino_of_lookup (i := i) hl'
    dsimp only at read
    rw [← read]
    simp only [Storage.destino, quitarBloque_carpetas]
    cases h : s.desenlazar f i with
    | none => exact desenlazar_none.mp h
    | some s' =>
      have removed := destino_desenlazar h f i
      rw [if_pos ⟨rfl, rfl⟩] at removed
      exact removed
  refine ⟨l', hl', ?_⟩
  intro j b hj
  have ne : j ≠ i := by
    rintro rfl
    rw [gone] at hj
    contradiction
  rw [same j ne] at hj
  have := low j b hj
  omega

theorem quitarBloques_baja (sb : Superbloque) (bloques : List Nat) (desde n : Nat) :
    ∀ (s : Storage Hash) (l : Dir Nat Nat),
    s.carpetas.lookup f = some { c with logicos := l } → Bajo (desde + n) l →
    ∃ l', (quitarBloques sb f bloques desde n s).carpetas.lookup f =
        some { c with logicos := l' } ∧ Bajo desde l' := by
  induction n with
  | zero => intro s l hl low; exact ⟨l, hl, low⟩
  | succ n ih =>
    intro s l hl low
    obtain ⟨l₁, hl₁, low₁⟩ := quitarBloque_baja sb bloques hl low
    exact ih _ l₁ hl₁ low₁

theorem truncarFile_acepta (sano : Sano sb s) (open_ : Abierta s f c)
    (low : Bajo (sb.bloquesLogicos c.tamanio) c.logicos) (tamanio : Nat) :
    (truncarFile sb s f tamanio).1 = true ∧
      ∃ l, (truncarFile sb s f tamanio).2.carpetas.lookup f =
          some ⟨tamanio, c.estado, bloquesFinales c.blocks (sb.bloquesLogicos tamanio), l⟩ ∧
        Bajo (sb.bloquesLogicos tamanio) l := by
  have closed : verificarSiCommited s f = false := by
    simp [verificarSiCommited, open_.esta, not_commited_beq open_.enCurso]
  have cero := (apta_cero (apta_debil sano)).1
  obtain ⟨grown, l₁, hl₁, low₁⟩ := enlazarCeros_crece
    (sb.bloquesLogicos tamanio - sb.bloquesLogicos c.tamanio) (sb.bloquesLogicos c.tamanio)
    s c.logicos open_.esta cero low
  have reach : Bajo (sb.bloquesLogicos tamanio +
      (sb.bloquesLogicos c.tamanio - sb.bloquesLogicos tamanio)) l₁ := by
    intro i b hi
    have := low₁ i b hi
    omega
  obtain ⟨l, hl, low'⟩ := quitarBloques_baja sb c.blocks (sb.bloquesLogicos tamanio) _ _ l₁ hl₁
    reach
  simp only [truncarFile, open_.libre, closed, open_.esta, grown, Bool.false_eq_true, if_false,
    Bool.true_eq_false]
  refine ⟨trivial, l, ?_, low'⟩
  simp only [guardarTruncado, hl, lookup_ponerCarpeta, if_true]

theorem bajo_salvo {escritos : List Nat} {n : Nat} {c' : Carpeta}
    (same : SalvoBloques escritos c c') (low : Bajo n c.logicos)
    (inside : ∀ i ∈ escritos, i < n) : Bajo n c'.logicos := by
  intro i b hi
  by_cases touched : i ∈ escritos
  · exact inside i touched
  · rw [same.links i touched] at hi
    exact low i b hi

theorem prepararPagina_numeros (sb : Superbloque) (f : FileTag) (c : Carpeta)
    (paginas : List Pagina) : ∀ fase : FaseFlush Hash,
    (∀ e ∈ fase.pendientes, e.numeroBloque < sb.bloquesLogicos c.tamanio) →
    ∀ e ∈ (paginas.foldl (prepararPagina sb f c) fase).pendientes,
      e.numeroBloque < sb.bloquesLogicos c.tamanio := by
  induction paginas with
  | nil => intro fase inside; exact inside
  | cons p rest ih =>
    intro fase inside
    apply ih
    unfold prepararPagina
    split
    · exact inside
    rename_i range
    have number : p.1.toNat < sb.bloquesLogicos c.tamanio := by omega
    have added : ∀ e : EscrituraPendiente, e.numeroBloque = p.1.toNat →
        ∀ x ∈ fase.pendientes ++ [e], x.numeroBloque < sb.bloquesLogicos c.tamanio := by
      intro e he x hx
      rcases List.mem_append.mp hx with old | new
      · exact inside x old
      · rw [List.mem_singleton.mp new, he]
        exact number
    split
    · exact inside
    dsimp only
    split
    · exact inside
    split
    · exact added _ rfl
    split
    · exact inside
    · exact inside
    · exact added _ rfl

theorem escritosPorFlush_bajo (sb : Superbloque) (hc : s.carpetas.lookup f = some c)
    (paginas : List Pagina) (cantidad : Int) :
    ∀ i ∈ escritosPorFlush sb s f paginas cantidad, i < sb.bloquesLogicos c.tamanio := by
  intro i hi
  unfold escritosPorFlush at hi
  split at hi
  · contradiction
  simp only [hc] at hi
  obtain ⟨e, he, rfl⟩ := List.mem_map.mp hi
  exact prepararPagina_numeros sb f c _ _ (fun _ h => by contradiction) e he

theorem escritosPorBloque_bajo (sano : Sano sb s) (hc : s.carpetas.lookup f = some c)
    (bloque : Int) (contenido : Bytes) :
    ∀ i ∈ escritosPorBloque sb s f bloque contenido, i < sb.bloquesLogicos c.tamanio := by
  intro i hi
  unfold escritosPorBloque at hi
  split at hi
  · rename_i accepted
    rcases escribirBloque_casos sano hc bloque contenido with run | ⟨⟨_, _, range, _⟩, _⟩
    · rw [run] at accepted
      contradiction
    · rw [List.mem_singleton.mp hi]
      omega
  · contradiction

/-- No logical block lies beyond TAMANIO, and the block count of TAMANIO does not wrap. -/
structure EnInt (sb : Superbloque) (c : Carpeta) : Prop where
  bajo : Bajo (sb.bloquesLogicos c.tamanio) c.logicos
  suma : c.tamanio + sb.tamanioBloque ≤ intEnd

def TodosEnInt (sb : Superbloque) (s : Storage Hash) : Prop :=
  ∀ f c, f ≠ initialFileBase → s.carpetas.lookup f = some c → EnInt sb c

def Cabe (sb : Superbloque) (p : Pedido) : Prop :=
  ∀ f tamanio, p = .truncar f tamanio → tamanio + sb.tamanioBloque ≤ intEnd

theorem enInt_salvo {escritos : List Nat} (all : TodosEnInt sb s) (noBase : f ≠ initialFileBase)
    (hc : s.carpetas.lookup f = some c)
    (inside : ∀ i ∈ escritos, i < sb.bloquesLogicos c.tamanio)
    (folder : ∃ c', s'.carpetas.lookup f = some c' ∧ SalvoBloques escritos c c') :
    ∀ c', s'.carpetas.lookup f = some c' → EnInt sb c' := by
  obtain ⟨c₁, hc₁, same⟩ := folder
  intro c' hc'
  cases hc₁.symm.trans hc'
  have before := all f c noBase hc
  refine ⟨?_, by rw [same.tamanio]; exact before.suma⟩
  rw [same.tamanio]
  exact bajo_salvo same before.bajo inside

theorem todosEnInt_formatearFs (sb : Superbloque) :
    TodosEnInt sb (formatearFs sb : Storage Hash) := by
  intro f c noBase hc
  rw [lookup_formatearFs, if_neg noBase] at hc
  contradiction

structure Alcanzada (sb : Superbloque) (s : Storage Hash) : Prop where
  sano : Sano sb s
  largos : Largos sb s
  enInt : TodosEnInt sb s

/-- The sizes an open File:Tag honours: not negative, no wrap in the block count, and the
    links to block 0 either all accepted or refused from the first. -/
def Honrable (sb : Superbloque) (cupo : Nat) (s : Storage Hash) (f : FileTag)
    (nuevoTamanio : Int32) : Prop :=
  ∀ c, Abierta s f c → 0 ≤ nuevoTamanio.toInt ∧
    nuevoTamanio.toInt + sb.tamanioBloque ≤ intEnd ∧
    (sb.bloquesLogicos nuevoTamanio.toInt.toNat ≤ sb.bloquesLogicos c.tamanio + cupo ∨ cupo = 0)

def Truncado.fin (t : Truncado Hash) (f : FileTag) : Bool × Storage Hash :=
  (t.exito, match t.guardado with
    | none => t.disco
    | some (tamanio, blocks) => guardarTruncado t.disco f tamanio.toNat blocks)

theorem truncarFile32_cerrada (sb : Superbloque) (fuera : Int → Int) (cupo : Nat)
    (closed : ∀ c, ¬ Abierta s f c) (nuevoTamanio : Int32) :
    truncarFile32 sb fuera cupo s f nuevoTamanio = rechazado s := by
  rcases abierta_or s f with ⟨c, open_⟩ | hp | none_ | ⟨c, hc, commited⟩
  · exact (closed c open_).elim
  · simp [truncarFile32, hp]
  · simp [truncarFile32, none_]
  · simp [truncarFile32, verificarSiCommited, hc, commited]

theorem tamanio_eq_zero {tamanio : Nat} (h : sb.bloquesLogicos tamanio = 0) : tamanio = 0 := by
  have pos := sb.bloque_pos
  rw [Superbloque.bloquesLogicos, Nat.div_eq_zero_iff] at h
  omega

theorem truncarFile32_abierta (fuera : Int → Int) (cupo : Nat) (open_ : Abierta s f c)
    (enInt : EnInt sb c) (unitFits : sb.tamanioBloque < intEnd) (nuevoTamanio : Int32) :
    truncarFile32 sb fuera cupo s f nuevoTamanio =
      cambiarTamanio sb fuera cupo s f c nuevoTamanio.toInt (sb.bloquesLogicos c.tamanio : Nat)
        (ceilDiv nuevoTamanio (Int32.ofNat sb.tamanioBloque)) := by
  have closed : verificarSiCommited s f = false := by
    simp [verificarSiCommited, open_.esta, not_commited_beq open_.enCurso]
  have pos := sb.bloque_pos
  have sum := enInt.suma
  have value : (Int32.ofNat c.tamanio).toInt = c.tamanio := toInt_ofNat_of_fits (by omega)
  have count : ceilDiv (Int32.ofNat c.tamanio) (Int32.ofNat sb.tamanioBloque) =
      (sb.bloquesLogicos c.tamanio : Nat) := by
    rw [ceilDiv_exact pos unitFits (by omega) (by omega), value, Int.toNat_natCast]
    rfl
  simp only [truncarFile32, open_.libre, closed, open_.esta, count, Bool.false_eq_true, if_false]

theorem truncarFile32_dentro (fuera : Int → Int) (cupo : Nat) (open_ : Abierta s f c)
    (enInt : EnInt sb c) (unitFits : sb.tamanioBloque < intEnd) {nuevoTamanio : Int32}
    (nonneg : 0 ≤ nuevoTamanio.toInt) (fits : nuevoTamanio.toInt + sb.tamanioBloque ≤ intEnd) :
    truncarFile32 sb fuera cupo s f nuevoTamanio =
      cambiarTamanio sb fuera cupo s f c (nuevoTamanio.toInt.toNat : Nat)
        (sb.bloquesLogicos c.tamanio : Nat)
        (sb.bloquesLogicos nuevoTamanio.toInt.toNat : Nat) := by
  rw [truncarFile32_abierta fuera cupo open_ enInt unitFits,
    ceilDiv_exact sb.bloque_pos unitFits nonneg fits, Int.toNat_of_nonneg nonneg]
  rfl

theorem cambiarTamanio_entero (fuera : Int → Int) (sano : Sano sb s) (open_ : Abierta s f c)
    (enInt : EnInt sb c) {tamanio cupo : Nat}
    (room : sb.bloquesLogicos tamanio ≤ sb.bloquesLogicos c.tamanio + cupo) :
    (cambiarTamanio sb fuera cupo s f c (tamanio : Nat) (sb.bloquesLogicos c.tamanio : Nat)
        (sb.bloquesLogicos tamanio : Nat)).fin f = truncarFile sb s f tamanio ∧
      Seguro sb s f (cambiarTamanio sb fuera cupo s f c (tamanio : Nat)
        (sb.bloquesLogicos c.tamanio : Nat) (sb.bloquesLogicos tamanio : Nat)) := by
  have closed : verificarSiCommited s f = false := by
    simp [verificarSiCommited, open_.esta, not_commited_beq open_.enCurso]
  have turns : ((sb.bloquesLogicos tamanio : Nat) - (sb.bloquesLogicos c.tamanio : Nat) : Int).toNat
      = sb.bloquesLogicos tamanio - sb.bloquesLogicos c.tamanio := by omega
  have back : ((sb.bloquesLogicos c.tamanio : Nat) - (sb.bloquesLogicos tamanio : Nat) : Int).toNat
      = sb.bloquesLogicos c.tamanio - sb.bloquesLogicos tamanio := by omega
  obtain ⟨same, disk, created⟩ := crecer_natCast f
    (sb.bloquesLogicos tamanio - sb.bloquesLogicos c.tamanio) cupo
    (sb.bloquesLogicos c.tamanio) s (by omega)
  obtain ⟨grown, _⟩ := enlazarCeros_crece
    (sb.bloquesLogicos tamanio - sb.bloquesLogicos c.tamanio) (sb.bloquesLogicos c.tamanio)
    s c.logicos open_.esta (apta_cero (apta_debil sano)).1 enInt.bajo
  rw [grown] at same
  obtain ⟨shrunk, read, removed⟩ := achicar_entre sb f c.blocks fuera
    (sb.bloquesLogicos tamanio) (sb.bloquesLogicos c.tamanio)
    (crecer f (sb.bloquesLogicos tamanio - sb.bloquesLogicos c.tamanio) cupo
      (sb.bloquesLogicos c.tamanio) s).disco
  simp only [cambiarTamanio, truncarFile, open_.libre, closed, open_.esta, turns, back, same,
    grown, Bool.false_eq_true, if_false, Bool.true_eq_false, Int.toNat_natCast]
  constructor
  · simp only [Truncado.fin, Int.toNat_natCast]
    rw [shrunk, disk]
  · refine ⟨?_, created, removed, ?_, fun refused => by contradiction⟩
    · intro j hj
      rcases List.mem_append.mp hj with inLoop | copied
      · obtain ⟨lo, hi⟩ := read j inLoop
        exact ⟨lo, c, open_.esta, hi⟩
      · obtain ⟨k, hk, rfl⟩ := List.mem_map.mp copied
        have := List.mem_range.mp hk
        refine ⟨Int.natCast_nonneg k, c, open_.esta, ?_⟩
        simp only [Int.ofNat_eq_natCast]
        omega
    · exact fun _ => ⟨tamanio, _, rfl, bloquesFinales_length c.blocks _⟩

theorem crecer_corta (cupo : Nat) : ∀ (n i : Nat) (s : Storage Hash) (l : Dir Nat Nat),
    s.carpetas.lookup f = some { c with logicos := l } → s.existe 0 = true → Bajo i l →
    cupo < n → (crecer f n cupo i s).exito = false ∧
      ∃ l', (crecer f n cupo i s).disco.carpetas.lookup f = some { c with logicos := l' } ∧
        (∀ j b, l.lookup j = some b → l'.lookup j = some b) ∧
        (cupo ≠ 0 → l'.lookup i = some 0) := by
  induction cupo with
  | zero =>
    intro n i s l hl _ _ short
    obtain ⟨n, rfl⟩ := Nat.exists_eq_succ_of_ne_zero (Nat.ne_of_gt short)
    exact ⟨rfl, l, hl, fun _ _ h => h, fun more => (more rfl).elim⟩
  | succ cupo ih =>
    intro n i s l hl cero low short
    obtain ⟨n, rfl⟩ := Nat.exists_eq_succ_of_ne_zero (by omega : n ≠ 0)
    obtain ⟨linked, low'⟩ := enlazar_siguiente hl cero low
    obtain ⟨failed, l', hl', kept, _⟩ := ih n (i + 1)
      (s.ponerCarpeta f { c with logicos := l.insert i 0 }) (l.insert i 0)
      (by rw [lookup_ponerCarpeta, if_pos rfl]) cero low' (by omega)
    simp only [crecer, enlazarCero_natCast, linked]
    refine ⟨failed, l', hl', ?_, fun _ => kept i 0 (by rw [lookup_insert_ite, if_pos rfl])⟩
    intro j b hj
    refine kept j b ?_
    have := low j b hj
    rw [lookup_insert_ite, if_neg (by omega)]
    exact hj

theorem cambiarTamanio_cortada (fuera : Int → Int) (sano : Sano sb s) (open_ : Abierta s f c)
    (enInt : EnInt sb c) {nuevos cupo : Nat} (some_ : cupo ≠ 0)
    (short : sb.bloquesLogicos c.tamanio + cupo < nuevos) (tamanio : Int) :
    (cambiarTamanio sb fuera cupo s f c tamanio (sb.bloquesLogicos c.tamanio : Nat)
        (nuevos : Nat)).exito = false ∧
      (cambiarTamanio sb fuera cupo s f c tamanio (sb.bloquesLogicos c.tamanio : Nat)
        (nuevos : Nat)).disco.carpetas.lookup f ≠ s.carpetas.lookup f := by
  have turns : ((nuevos : Nat) - (sb.bloquesLogicos c.tamanio : Nat) : Int).toNat =
      nuevos - sb.bloquesLogicos c.tamanio := by omega
  obtain ⟨failed, l, hl, _, made⟩ := crecer_corta cupo (nuevos - sb.bloquesLogicos c.tamanio)
    (sb.bloquesLogicos c.tamanio) s c.logicos open_.esta (apta_cero (apta_debil sano)).1
    enInt.bajo (by omega)
  simp only [cambiarTamanio, turns, failed, if_true, hl, open_.esta, true_and]
  intro same
  have equal : l = c.logicos := congrArg Carpeta.logicos (Option.some.inj same)
  rw [equal] at made
  exact absurd (enInt.bajo _ 0 (made some_)) (lt_irrefl _)

theorem cambiarTamanio_sinCupo (sb : Superbloque) (fuera : Int → Int) (s : Storage Hash)
    (f : FileTag) (c : Carpeta) {actuales nuevos : Int} (short : actuales < nuevos)
    (tamanio : Int) : cambiarTamanio sb fuera 0 s f c tamanio actuales nuevos = rechazado s := by
  obtain ⟨n, turns⟩ := Nat.exists_eq_succ_of_ne_zero (by omega : (nuevos - actuales).toNat ≠ 0)
  simp [cambiarTamanio, turns, crecer, rechazado]

theorem cambiarTamanio_vacia (sb : Superbloque) (fuera : Int → Int) (cupo : Nat)
    (s : Storage Hash) (f : FileTag) (c : Carpeta) {actuales nuevos : Int}
    (some_ : 0 ≤ actuales) (none_ : nuevos ≤ 0) (tamanio : Int) :
    (cambiarTamanio sb fuera cupo s f c tamanio actuales nuevos).exito = true ∧
      (cambiarTamanio sb fuera cupo s f c tamanio actuales nuevos).guardado =
        some (tamanio, []) := by
  have still : (nuevos - actuales).toNat = 0 := by omega
  have empty : nuevos.toNat = 0 := by omega
  simp [cambiarTamanio, still, empty, crecer, bloquesFinales]

theorem segura_rechazado (sb : Superbloque) (s : Storage Hash) (f : FileTag) :
    Seguro sb s f (rechazado s) :=
  ⟨fun _ h => by contradiction, fun _ h => by contradiction, fun _ h => by contradiction,
    fun h => by contradiction, fun _ => ⟨rfl, rfl⟩⟩

theorem truncarFile32_segura_iff (fuera : Int → Int) (cupo : Nat) (h : Alcanzada sb s)
    (unitFits : sb.tamanioBloque < intEnd) (f : FileTag) (nuevoTamanio : Int32) :
    Seguro sb s f (truncarFile32 sb fuera cupo s f nuevoTamanio) ↔
      Honrable sb cupo s f nuevoTamanio := by
  constructor
  · intro safe c open_
    have enInt := h.enInt f c (sin_proteger_ne_inicial open_.libre) open_.esta
    by_cases bad : nuevoTamanio.toInt < 0 ∨ (intEnd : Int) < nuevoTamanio.toInt + sb.tamanioBloque
    · -- TAMANIO is the bad size and BLOCKS is empty
      rw [truncarFile32_abierta fuera cupo open_ enInt unitFits] at safe
      obtain ⟨accepted, saved⟩ := cambiarTamanio_vacia sb fuera cupo s f c
        (Int.natCast_nonneg (sb.bloquesLogicos c.tamanio))
        (ceilDiv_nonpos sb.bloque_pos unitFits bad) nuevoTamanio.toInt
      obtain ⟨tamanio, blocks, same, length⟩ := safe.aceptado accepted
      rw [saved, Option.some_inj, Prod.mk.injEq] at same
      have none_ : sb.bloquesLogicos tamanio = 0 := by rw [← length, ← same.2]; rfl
      have zero := tamanio_eq_zero none_
      omega
    · have nonneg : 0 ≤ nuevoTamanio.toInt := by omega
      have fits : nuevoTamanio.toInt + sb.tamanioBloque ≤ intEnd := by omega
      rw [truncarFile32_dentro fuera cupo open_ enInt unitFits nonneg fits] at safe
      refine ⟨nonneg, fits, ?_⟩
      by_contra partly
      have short : sb.bloquesLogicos c.tamanio + cupo <
          sb.bloquesLogicos nuevoTamanio.toInt.toNat := by omega
      obtain ⟨refused, changed⟩ := cambiarTamanio_cortada fuera h.sano open_ enInt
        (by omega : cupo ≠ 0) short (nuevoTamanio.toInt.toNat : Nat)
      exact changed (safe.rechazado refused).2
  · intro honra
    by_cases isOpen : ∃ c, Abierta s f c
    · obtain ⟨c, open_⟩ := isOpen
      have enInt := h.enInt f c (sin_proteger_ne_inicial open_.libre) open_.esta
      obtain ⟨nonneg, fits, room⟩ := honra c open_
      rw [truncarFile32_dentro fuera cupo open_ enInt unitFits nonneg fits]
      by_cases enough : sb.bloquesLogicos nuevoTamanio.toInt.toNat ≤
          sb.bloquesLogicos c.tamanio + cupo
      · exact (cambiarTamanio_entero fuera h.sano open_ enInt enough).2
      · have empty : cupo = 0 := room.resolve_left enough
        subst empty
        rw [cambiarTamanio_sinCupo sb fuera s f c (by omega)]
        exact segura_rechazado sb s f
    · rw [truncarFile32_cerrada sb fuera cupo (not_exists.mp isOpen)]
      exact segura_rechazado sb s f

variable [DecidableEq Hash]

theorem todosEnInt_trasPedido (md5 : Bytes → Hash) (p : Pedido)
    (unitFits : sb.tamanioBloque < intEnd) (fits : Cabe sb p) (sano : Sano sb s)
    (largos : Largos sb s) (all : TodosEnInt sb s) :
    TodosEnInt sb (trasPedido sb md5 s p) := by
  intro g c' noBase hc'
  by_cases other : g ≠ p.objetivo
  · rw [trasPedido_lookup_otro md5 p sano other] at hc'
    exact all g c' noBase hc'
  rw [not_not] at other
  subst other
  have idle : trasPedido sb md5 s p = s → EnInt sb c' := by
    intro same
    rw [same] at hc'
    exact all _ c' noBase hc'
  cases p with
  | crear f =>
    rcases crearFile_cases s f with ⟨_, _, same⟩ | ⟨_, made⟩
    · exact idle (congrArg Prod.snd same)
    · rw [trasPedido, atender, made, Pedido.objetivo, lookup_ponerCarpeta, if_pos rfl] at hc'
      cases hc'
      exact ⟨fun i b hi => by simp at hi, by simpa using Nat.le_of_lt unitFits⟩
  | truncar f tamanio =>
    rcases abierta_or s f with ⟨c, open_⟩ | hp | none_ | ⟨c, hc, closed⟩
    · obtain ⟨_, l, hl, low⟩ := truncarFile_acepta sano open_
        (all f c (sin_proteger_ne_inicial open_.libre) open_.esta).bajo tamanio
      cases hl.symm.trans hc'
      exact ⟨low, fits f tamanio rfl⟩
    · exact idle (by simp [trasPedido, atender, truncarFile, hp])
    · exact idle (by simp [trasPedido, atender, truncarFile, none_])
    · exact idle (trasPedido_commited hc closed (by simp))
  | tag origen destino =>
    rcases tagFile_cases s origen destino with same | ⟨c, hp, ho, _, made⟩
    · exact idle (congrArg Prod.snd same)
    · rw [trasPedido, atender, made, Pedido.objetivo, lookup_ponerCarpeta, if_pos rfl] at hc'
      cases hc'
      have copied := all origen c (sin_proteger_ne_inicial hp) ho
      exact ⟨copied.bajo, copied.suma⟩
  | escribir f bloque contenido =>
    cases hc : s.carpetas.lookup f with
    | none => exact idle (by simp [trasPedido, atender, escribirBloque, hc])
    | some c =>
      exact enInt_salvo all noBase hc (escritosPorBloque_bajo sano hc bloque contenido)
        (escribirBloque_reescrita sano hc bloque contenido).2.carpeta c' hc'
  | flush f paginas cantidad =>
    cases hc : s.carpetas.lookup f with
    | none => exact idle (by simp [trasPedido, atender, flushArchivo, hc])
    | some c =>
      exact enInt_salvo all noBase hc (escritosPorFlush_bajo sb hc paginas cantidad)
        (flushArchivo_reescrita sano hc paginas cantidad).carpeta c' hc'
  | commit f =>
    rcases commit_cases sb md5 f sano with ⟨same, _⟩ | ⟨c, _, hc, _, done⟩
    · exact idle same
    · obtain ⟨l, hl, links⟩ := done.carpeta
      cases hl.symm.trans hc'
      have before := all f c noBase hc
      refine ⟨?_, before.suma⟩
      -- a name that COMMIT did not move is one that was there
      intro j b hj
      by_cases listed : j < c.blocks.length
      · rw [largos f c noBase hc] at listed
        exact listed
      · rw [links, ligado_fuera (Nat.le_of_not_lt listed)] at hj
        exact before.bajo j b hj
  | eliminar f =>
    rcases eliminarFileTag_cases sb s f with same | ⟨_, _, _, gone⟩
    · exact idle (congrArg Prod.snd same)
    · rw [trasPedido, atender, gone, Pedido.objetivo, lookup_borrarCarpeta, if_pos rfl] at hc'
      contradiction

theorem alcanzada_trasPedidos (md5 : Bytes → Hash) (unitFits : sb.tamanioBloque < intEnd)
    {ps : List Pedido} (fit : ∀ p ∈ ps, Cabe sb p) : Alcanzada sb (trasPedidos sb md5 ps) := by
  have guarded : GuardedRuns.Along (trasPedido sb md5) (fun _ p => Cabe sb p) (formatearFs sb) ps :=
    GuardedRuns.along_of_forall fit (formatearFs sb)
  refine GuardedRuns.invariant_guarded_run (Alcanzada sb) ?_ ?_ guarded
  · intro s p h fits
    exact ⟨sano_trasPedido p h.sano, largos_trasPedido md5 p h.sano h.largos,
      todosEnInt_trasPedido md5 p unitFits fits h.sano h.largos h.enInt⟩
  · exact ⟨sano_formatearFs sb, largos_formatearFs sb, todosEnInt_formatearFs sb⟩

/-- In a run whose sizes leave room for the sum, every TRUNCATE, of any int, is safe exactly
    when the File:Tag can be truncated and the size is one it honours, or when it cannot. -/
theorem truncado_seguro_iff (sb : Superbloque) (unitFits : sb.tamanioBloque < intEnd)
    (md5 : Bytes → Hash) (ps : List Pedido) (fit : ∀ p ∈ ps, Cabe sb p) (fuera : Int → Int)
    (cupo : Nat) (f : FileTag) (nuevoTamanio : Int32) :
    Seguro sb (trasPedidos sb md5 ps) f
        (truncarFile32 sb fuera cupo (trasPedidos sb md5 ps) f nuevoTamanio) ↔
      Honrable sb cupo (trasPedidos sb md5 ps) f nuevoTamanio :=
  truncarFile32_segura_iff fuera cupo (alcanzada_trasPedidos md5 unitFits fit) unitFits f
    nuevoTamanio

theorem truncado_como_pedido (md5 : Bytes → Hash) (unitFits : sb.tamanioBloque < intEnd)
    {ps : List Pedido} (fit : ∀ p ∈ ps, Cabe sb p) (fuera : Int → Int) (f : FileTag)
    {nuevoTamanio : Int32} (nonneg : 0 ≤ nuevoTamanio.toInt)
    (fits : nuevoTamanio.toInt + sb.tamanioBloque ≤ intEnd) {cupo : Nat}
    (room : sb.bloquesLogicos nuevoTamanio.toInt.toNat ≤ cupo) :
    (truncarFile32 sb fuera cupo (trasPedidos sb md5 ps) f nuevoTamanio).fin f =
      truncarFile sb (trasPedidos sb md5 ps) f nuevoTamanio.toInt.toNat := by
  have h := alcanzada_trasPedidos md5 unitFits fit
  rcases abierta_or (trasPedidos sb md5 ps) f with ⟨c, open_⟩ | hp | none_ | ⟨c, hc, commited⟩
  · have enInt := h.enInt f c (sin_proteger_ne_inicial open_.libre) open_.esta
    rw [truncarFile32_dentro fuera cupo open_ enInt unitFits nonneg fits]
    exact (cambiarTamanio_entero fuera h.sano open_ enInt (by omega)).1
  · simp [truncarFile32, truncarFile, hp, rechazado, Truncado.fin]
  · simp [truncarFile32, truncarFile, none_, rechazado, Truncado.fin]
  · simp [truncarFile32, truncarFile, verificarSiCommited, hc, commited, rechazado, Truncado.fin]

theorem truncado_seguro_iff_corrida : Seguro discoDeSeis
    (trasPedidos discoDeSeis id [.crear a1, .truncar a1 1]) a1
    (truncarFile32 discoDeSeis (fun _ => 0) 9
      (trasPedidos discoDeSeis id [.crear a1, .truncar a1 1]) a1 3) := by
  refine (truncado_seguro_iff discoDeSeis (by decide) id [.crear a1, .truncar a1 1] ?_
    (fun _ => 0) 9 a1 3).mpr ?_
  · intro p hp g tamanio same
    rcases List.mem_cons.mp hp with rfl | hp
    · contradiction
    · rw [List.mem_singleton] at hp
      subst hp
      cases same
      decide
  · intro c _
    have size : (3 : Int32).toInt = 3 := by decide
    have blocks : discoDeSeis.bloquesLogicos (Int.toNat 3) = 3 := by decide
    rw [size, blocks]
    exact ⟨by decide, by decide, .inl (by omega)⟩

/-- TRUNCATE A:1 -2 on a File:Tag of one block looks at array_bloques_fisico[-1]. -/
theorem truncado_negativo : ¬ Seguro discoDeSeis
    (trasPedidos discoDeSeis id [.crear a1, .truncar a1 1]) a1
    (truncarFile32 discoDeSeis (fun _ => 0) 9
      (trasPedidos discoDeSeis id [.crear a1, .truncar a1 1]) a1 (-2)) := by
  intro safe
  have read : (-1 : Int) ∈ (truncarFile32 discoDeSeis (fun _ => 0) 9
      (trasPedidos discoDeSeis id [.crear a1, .truncar a1 1]) a1 (-2)).leidos := by decide
  exact absurd (safe.leidos (-1) read).1 (by decide)

end StorageTruncados
