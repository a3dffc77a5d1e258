import MasterOfFiles.Worker.Transparencia

/-!
A WRITE that fails. Its pages are written one by one, before it is known that all of them can be
loaded; the bytes of the pages before the first one that is missing stay written.
-/
namespace WorkerRastros
open StorageEstado StorageEscritura StoragePedidos StorageAcuerdo StorageVolcados WriteBack
open WorkerMemoria WorkerPaginas WorkerReemplazo WorkerCoherencia WorkerAccesos WorkerRecorridos
open WorkerEjecucion WorkerTransparencia

variable {σ Hash : Type} {srv : Servidor σ} {sb : Superbloque} {cfg : ConfigMemoria}
  {Bueno : σ → Prop} {propios : Archivo → Prop} {n n₁ n₂ : Nodo σ}
  {q : Archivo × Nat} {f : Archivo} {base : Nat} {contenido : Bytes}

/-- The bytes to write that come before the first one for which there is no place are those that
    are seen there already. -/
def YaEscrito (p : Plano) (f : Archivo) (base : Nat) (texto : Bytes) : Prop :=
  ∀ i < texto.length, (∀ j ≤ i, (p f (base + j)).isSome = true) → p f (base + i) = texto[i]?

theorem vista_length (fiel : Fiel srv cfg Bueno) (formed : FirmeEn srv cfg Bueno propios n)
    {q : Archivo × Nat} {pagina : Bytes} (hv : vista srv n q = some pagina) :
    pagina.length = cfg.tamanioPagina := by
  rw [vista, view] at hv
  cases hc : paginas n.mem q with
  | none =>
    rw [hc] at hv
    exact fiel.largo _ _ _ _ formed.bueno hv
  | some line =>
    rw [hc, Option.some.injEq] at hv
    exact hv ▸ formed.largas q line hc

theorem byteEn_isSome (fiel : Fiel srv cfg Bueno) (formed : FirmeEn srv cfg Bueno propios n)
    (f : Archivo) (i : Nat) : (byteEn srv cfg n f i).isSome =
      (vista srv n (f, i / cfg.tamanioPagina)).isSome := by
  rw [byteEn]
  cases hv : vista srv n (f, i / cfg.tamanioPagina) with
  | none => rfl
  | some pagina =>
    have size := vista_length fiel formed hv
    have inside := Nat.mod_lt i cfg.pagina_pos
    simp [size, inside]

def Presente (srv : Servidor σ) (cfg : ConfigMemoria) (Bueno : σ → Prop)
    (propios : Archivo → Prop) (n : Nodo σ) (q : Archivo × Nat) (n' : Nodo σ) : Prop :=
  SinPerdida n' → FirmeEn srv cfg Bueno propios n' ∧ PaginaAlDia srv n' q ∧
    (vista srv n' q).isSome = (vista srv n q).isSome

theorem presente_paso (fiel : Fiel srv cfg Bueno) (step : Paso srv cfg n₁ n₂)
    (h : Presente srv cfg Bueno propios n q n₁) : Presente srv cfg Bueno propios n q n₂ := by
  intro whole
  obtain ⟨formed₁, current₁, same⟩ := h (sinPerdida_antes (paso_rechazados step) whole)
  obtain ⟨formed₂, upkeep⟩ := pasos_upkeep fiel (.single step) whole formed₁
  obtain ⟨current₂, same₂⟩ := upkeeps_at upkeep current₁
  refine ⟨formed₂, current₂, ?_⟩
  rw [vista, same₂]
  exact same

theorem presente_escribir {m despl : Nat} {e : EntradaPagina} {parcial : Bytes}
    (he : n₁.mem.marcos m = some e) (fits : despl + parcial.length ≤ cfg.tamanioPagina)
    (h : Presente srv cfg Bueno propios n q n₁) : Presente srv cfg Bueno propios n q
      { n₁ with mem := escribirPagina cfg n₁.mem m despl parcial } := by
  intro whole
  obtain ⟨formed₁, current₁, same⟩ := h whole
  have ord := formed₁.ordenada
  refine ⟨(firme_escribir formed₁ he fits).1, ?_, ?_⟩
  · rw [PaginaAlDia, paginas_escribir ord he]
    exact coherentAt_put (fun _ => current₁) _
  · rw [vista_escribir ord he, ← same]
    by_cases hq : q = (e.archivo, e.numeroPagina)
    · rw [hq, Function.update_self, vista_cargada ord he]
      rfl
    · rw [Function.update_of_ne hq]

theorem acceder_presente (fiel : Fiel srv cfg Bueno) (formed : FirmeEn srv cfg Bueno propios n)
    (dia : LruAlDia cfg n.mem) (f : Archivo) (offset tam : Nat) (escritura : Option Bytes)
    (current : PaginaAlDia srv n q) :
    Presente srv cfg Bueno propios n q (accederMemoria srv cfg n f offset tam escritura).nodo :=
  (acceder_invariante f escritura (fun _ _ _ h step => presente_paso fiel step h)
    (fun _ _ _ _ _ _ he _ fits h => presente_escribir he fits h) formed.ordenada dia offset tam
    fun _ => ⟨formed, current, rfl⟩).1

theorem yaEscrito_of_intacto (fiel : Fiel srv cfg Bueno)
    (formed : FirmeEn srv cfg Bueno (fun _ => False) n) (dia : LruAlDia cfg n.mem)
    (whole : SinPerdida (executeWrite srv cfg n f base contenido).nodo)
    (failed : (executeWrite srv cfg n f base contenido).completo = false)
    (same : byteEn srv cfg (executeWrite srv cfg n f base contenido).nodo = byteEn srv cfg n) :
    YaEscrito (byteEn srv cfg n) f base (cadena contenido) := by
  intro i hi there
  obtain ⟨_, bytes, stopped⟩ := executeWrite_alDia fiel formed dia f base contenido whole
  have some_ : cadena contenido ≠ [] := List.length_pos_iff.mp (by omega)
  obtain ⟨_, nothing⟩ := stopped failed some_
  rw [same] at bytes nothing
  generalize (executeWrite srv cfg n f base contenido).procesados = procesados at *
  by_cases before : i < procesados
  · have inside : f = f ∧ base ≤ base + i ∧
        base + i < base + ((cadena contenido).take procesados).length := by
      rw [List.length_take]
      exact ⟨rfl, by omega, by omega⟩
    rw [bytes f (base + i) (.inl inside), sobrescribir, if_pos inside, Nat.add_sub_cancel_left,
      List.getElem?_take_of_lt before]
  · have stop := there procesados (by omega)
    simp [nothing] at stop

theorem intacto_of_yaEscrito (fiel : Fiel srv cfg Bueno)
    (formed : FirmeEn srv cfg Bueno (fun _ => False) n) (dia : LruAlDia cfg n.mem)
    (whole : SinPerdida (executeWrite srv cfg n f base contenido).nodo)
    (current : ∀ q, PaginaAlDia srv n q)
    (already : YaEscrito (byteEn srv cfg n) f base (cadena contenido)) :
    byteEn srv cfg (executeWrite srv cfg n f base contenido).nodo = byteEn srv cfg n := by
  obtain ⟨after, bytes, _⟩ := executeWrite_alDia fiel formed dia f base contenido whole
  have present (g : Archivo) (i : Nat) :
      (byteEn srv cfg (executeWrite srv cfg n f base contenido).nodo g i).isSome =
        (byteEn srv cfg n g i).isSome := by
    rw [byteEn_isSome fiel formed, byteEn_isSome fiel after]
    exact (acceder_presente fiel formed dia f base _ _ (current _) whole).2.2
  generalize (executeWrite srv cfg n f base contenido).procesados = procesados at bytes
  -- what was written is there afterwards, so there was a byte before
  have there : ∀ j, j < ((cadena contenido).take procesados).length →
      (byteEn srv cfg n f (base + j)).isSome = true := by
    intro j hj
    have inside : f = f ∧ base ≤ base + j ∧
        base + j < base + ((cadena contenido).take procesados).length :=
      ⟨rfl, by omega, by omega⟩
    rw [← present, bytes f (base + j) (.inr (current _)), sobrescribir, if_pos inside,
      Nat.add_sub_cancel_left]
    simpa using hj
  funext g i
  rw [bytes g i (.inr (current _)), sobrescribir]
  split
  case isFalse => rfl
  case isTrue inside =>
    obtain ⟨rfl, low, high⟩ := inside
    obtain ⟨d, rfl⟩ := Nat.exists_eq_add_of_le low
    have size : d < ((cadena contenido).take procesados).length := by omega
    rw [Nat.add_sub_cancel_left, already d (by rw [List.length_take] at size; omega)
      fun j hj => there j (by omega)]
    exact List.getElem?_take_of_lt (by rw [List.length_take] at size; omega)

def conTresBloques : Nodo (Storage Bytes) := ⟨crearMemoria unMarcoClock, tresBloques, []⟩

end WorkerRastros
