import Mathlib.Data.Nat.ModEq
import MasterOfFiles.Lib.SecondChance
import MasterOfFiles.Worker.Llamadas

/-!
aplicar_clock_m against enhanced second chance: the victim that its four turns end with, and
the bits and the pointer they leave.
-/
namespace WorkerReloj
open StorageEstado Solicitudes Dialogue WorkerEntradas WorkerRepresentacion WorkerLlamadas
open SecondChance
open WorkerMemoria (ConfigMemoria)

variable {cfg : ConfigMemoria} {mem mem' : MemoriaInterna} {f g : ArchivoTag} {p q : Puntero}
  {e e' : EntradaPagina} {k m : Nat}

theorem vuelta_nodup (cfg : ConfigMemoria) (inicio : Nat) : (vuelta cfg inicio).Nodup := by
  refine List.Nodup.map_on ?_ List.nodup_range
  intro i hi j hj same
  have hi := List.mem_range.mp hi
  have hj := List.mem_range.mp hj
  have step : Nat.ModEq cfg.cantidadMarcos i j := Nat.ModEq.add_left_cancel' inicio same
  exact Nat.ModEq.eq_of_lt_of_lt step hi hj

theorem vuelta_primera {inicio : Nat} (hp : inicio < cfg.cantidadMarcos) :
    (vuelta cfg inicio).head? = some inicio := by
  rw [List.head?_eq_getElem?]
  simp [vuelta, cantidadMarcos_pos cfg, Nat.mod_eq_of_lt hp]

theorem segundaVuelta_choice (modificados : Nat → Bool) (turno : List Nat) :
    ∀ referencia : Nat → Bool, turno.Nodup →
      let stops := fun u => referencia u = false ∧ modificados u = true
      (∃ before v after, turno = before ++ v :: after ∧ stops v ∧ (∀ u ∈ before, ¬ stops u) ∧
        segundaVuelta modificados referencia turno = (some v, cleared before referencia)) ∨
      ((∀ u ∈ turno, ¬ stops u) ∧
        segundaVuelta modificados referencia turno = (none, cleared turno referencia)) := by
  induction turno with
  | nil =>
    intro referencia _ stops
    refine .inr ⟨by simp, ?_⟩
    simp [segundaVuelta]
  | cons m resto ih =>
    intro referencia nodup stops
    obtain ⟨fresh, nodup⟩ := List.nodup_cons.mp nodup
    unfold segundaVuelta
    by_cases here : referencia m = false ∧ modificados m = true
    · rw [if_pos here]
      refine .inl ⟨[], m, resto, rfl, here, by simp, ?_⟩
      simp
    rw [if_neg here]
    -- the frames ahead keep the bit they had, as m is not among them
    have ahead : ∀ u ∈ resto, Function.update referencia m false u = referencia u := by
      intro u hu
      have other : u ≠ m := fun same => fresh (same ▸ hu)
      exact Function.update_of_ne other _ _
    rcases ih (Function.update referencia m false) nodup with
      ⟨before, v, after, rfl, stop, earlier, run⟩ | ⟨never, run⟩
    · refine .inl ⟨m :: before, v, after, rfl, ?_, ?_, ?_⟩
      · rw [ahead v (by simp)] at stop
        exact stop
      · intro u hu
        rcases List.mem_cons.mp hu with rfl | hu
        · exact here
        · have before_ := earlier u hu
          dsimp only at before_
          rw [ahead u (by simp [hu])] at before_
          exact before_
      · rw [run, cleared_cons]
    · refine .inr ⟨?_, ?_⟩
      · intro u hu
        rcases List.mem_cons.mp hu with rfl | hu
        · exact here
        · have after_ := never u hu
          dsimp only at after_
          rw [ahead u hu] at after_
          exact after_
      · rw [run, cleared_cons]

theorem elegirVictima_choice (hp : mem.puntero < cfg.cantidadMarcos) :
    ∃ v, (elegirVictima cfg mem).1 = some v ∧ v ∈ vuelta cfg mem.puntero ∧
      Choice (vuelta cfg mem.puntero) mem.bitsReferencia mem.bitsModificados v
        (elegirVictima cfg mem).2 := by
  have second := segundaVuelta_choice mem.bitsModificados (vuelta cfg mem.puntero)
    mem.bitsReferencia (vuelta_nodup cfg mem.puntero)
  unfold elegirVictima
  dsimp only at second ⊢
  cases clean : (vuelta cfg mem.puntero).find? fun u =>
      !mem.bitsReferencia u && !mem.bitsModificados u with
  | some v =>
    refine ⟨v, rfl, List.mem_of_find?_eq_some clean, .clean ?_⟩
    exact (isFirst_of_find? clean).congr fun u _ => by simp
  | none =>
    have noneClean : ∀ u ∈ vuelta cfg mem.puntero,
        ¬ (mem.bitsReferencia u = false ∧ mem.bitsModificados u = false) := by
      intro u hu both
      have never := List.find?_eq_none.mp clean u hu
      simp [both] at never
    rcases second with ⟨before, v, after, split, here, earlier, run⟩ | ⟨never, run⟩
    · rw [run]
      exact ⟨v, rfl, by simp [split], .modified noneClean split here earlier⟩
    -- every frame was referenced, and none is any more
    have all : ∀ u ∈ vuelta cfg mem.puntero, mem.bitsReferencia u = true := by
      intro u hu
      rw [← Bool.not_eq_false]
      intro off
      cases modified : mem.bitsModificados u with
      | false => exact noneClean u hu ⟨off, modified⟩
      | true => exact never u hu ⟨off, modified⟩
    have off : ∀ u ∈ vuelta cfg mem.puntero,
        cleared (vuelta cfg mem.puntero) mem.bitsReferencia u = false := by
      intro u hu
      simp [cleared, hu]
    rw [run]
    dsimp only
    cases third : (vuelta cfg mem.puntero).find? fun u =>
        !cleared (vuelta cfg mem.puntero) mem.bitsReferencia u && !mem.bitsModificados u with
    | some v =>
      refine ⟨v, rfl, List.mem_of_find?_eq_some third, .second all ?_⟩
      exact (isFirst_of_find? third).congr fun u hu => by simp [off u hu]
    | none =>
      have head := vuelta_primera hp
      obtain ⟨rest, turn⟩ := List.head?_eq_some_iff.mp head
      have here : mem.puntero ∈ vuelta cfg mem.puntero := List.mem_of_head? head
      have fourth : (vuelta cfg mem.puntero).find? (fun u =>
          !cleared (vuelta cfg mem.puntero) mem.bitsReferencia u) = some mem.puntero := by
        have stop : (!cleared (vuelta cfg mem.puntero) mem.bitsReferencia mem.puntero) = true := by
          simp [off _ here]
        rw [turn] at stop ⊢
        exact List.find?_cons_of_pos stop
      rw [fourth]
      refine ⟨mem.puntero, rfl, here, .full (fun u hu => ⟨all u hu, ?_⟩) head⟩
      have dirty := List.find?_eq_none.mp third u hu
      simpa [off u hu] using dirty

def DelArchivo (mem : MemoriaInterna) (f : ArchivoTag) (m : Nat) : Prop :=
  ∃ q e, mem.heap q = some e ∧ e.archivo = f ∧ e.marco = m

/-- The M bits after the pages of f are flushed: none of theirs is left. -/
structure SinModificados (mem : MemoriaInterna) (f : ArchivoTag) (mem' : MemoriaInterna) :
    Prop where
  suyos : ∀ m, DelArchivo mem f m → mem'.bitsModificados m = false
  ajenos : ∀ m, ¬ DelArchivo mem f m → mem'.bitsModificados m = mem.bitsModificados m

theorem armarFlush_modificados (lig : Ligada cfg mem) (clock : cfg.algoritmo = .clockM)
    (bits : ∀ p e, mem.heap p = some e → mem.bitsModificados e.marco = e.modificada)
    (queryId : Int) (f : ArchivoTag) :
    SinModificados mem f (armarFlush cfg mem queryId f).mem := by
  obtain ⟨_, _, reset, _⟩ := armarFlush_spec lig queryId f
  constructor
  · intro m there
    obtain ⟨q, e, he, file, rfl⟩ := there
    cases dirty : e.modificada with
    | true => exact reset.limpios clock q ((mem_tablaDe lig).mpr ⟨e, he, file⟩) e he dirty
    | false =>
      -- its bit was off, and no other entry is in the same frame
      rw [reset.iguales e.marco, bits q e he, dirty]
      intro _ q' _ e' he' dirty' frame
      have same := mismo_marco lig he' he frame
      subst same
      cases he.symm.trans he'
      rw [dirty] at dirty'
      contradiction
  · intro m other
    refine reset.iguales m fun _ q hq e he _ frame => ?_
    obtain ⟨e', he', file⟩ := (mem_tablaDe lig).mp hq
    cases he.symm.trans he'
    exact other ⟨q, e, he, file, frame⟩

theorem desalojar_modificados (lig : Ligada cfg mem) (clock : cfg.algoritmo = .clockM)
    (bits : ∀ p e, mem.heap p = some e → mem.bitsModificados e.marco = e.modificada)
    (queryId : Int) (p : Puntero) (e : EntradaPagina) :
    (desalojar cfg mem queryId p e).Ensures fun mem' =>
      mem'.bitsReferencia = mem.bitsReferencia ∧ mem'.puntero = mem.puntero ∧
      (e.modificada = true → SinModificados mem e.archivo mem') ∧
      (e.modificada = false → mem'.bitsModificados = mem.bitsModificados) := by
  unfold desalojar
  split
  · rename_i dirty
    obtain ⟨fields, _⟩ := armarFlush_spec lig queryId e.archivo
    have reset := armarFlush_modificados lig clock bits queryId e.archivo
    intro reply
    refine ⟨fields.referencia, fields.puntero, fun _ => ⟨reset.suyos, reset.ajenos⟩, ?_⟩
    intro clean
    rw [dirty] at clean
    contradiction
  · rename_i clean
    refine ⟨rfl, rfl, fun dirty => absurd dirty clean, fun _ => rfl⟩

/-- What aplicar_clock_m is to do in `mem`: take the frame of enhanced second chance, move the
    hand to the frame after it, and of the other frames change only the bits said. -/
def SegundaOportunidad (cfg : ConfigMemoria) (mem : MemoriaInterna)
    (r : Option Nat × MemoriaInterna) : Prop :=
  ∃ victima p e referencia, r.1 = some victima ∧ victima < cfg.cantidadMarcos ∧
    (mem.marcos victima).entradaPagina = some p ∧ mem.heap p = some e ∧
    Choice (vuelta cfg mem.puntero) mem.bitsReferencia mem.bitsModificados victima referencia ∧
    r.2.puntero = (victima + 1) % cfg.cantidadMarcos ∧
    ∀ m, m ≠ victima → r.2.bitsReferencia m = referencia m ∧
      (e.modificada = true ∧ DelArchivo mem e.archivo m → r.2.bitsModificados m = false) ∧
      (¬ (e.modificada = true ∧ DelArchivo mem e.archivo m) →
        r.2.bitsModificados m = mem.bitsModificados m)

/-- With no free frame a victim is always found, whatever Storage replies. -/
theorem clock_da_segunda_oportunidad (rep : Representacion cfg mem)
    (clock : cfg.algoritmo = .clockM)
    (full : ∀ m, m < cfg.cantidadMarcos → (mem.marcos m).libre = false) (queryId : Int) :
    (aplicarClockM cfg mem queryId).Ensures (SegundaOportunidad cfg mem) := by
  have bits := rep.bits clock
  have noFree : (vuelta cfg mem.puntero).find? (fun m => (mem.marcos m).libre) = none := by
    rw [List.find?_eq_none]
    intro m hm
    simp [full m (vuelta_rango hm)]
  obtain ⟨victima, chosen, listed, choice⟩ := elegirVictima_choice rep.puntero
  have range := vuelta_rango listed
  obtain ⟨p, e, hp, he, rfl⟩ := marco_ocupado rep.ligada (full victima range)
  unfold aplicarClockM
  rw [noFree]
  dsimp only
  generalize elegirVictima cfg mem = turn at chosen choice
  obtain ⟨found, referencia⟩ := turn
  dsimp only at chosen choice
  subst chosen
  simp only [hp, he]
  have lig : Ligada cfg { mem with
      bitsReferencia := referencia, puntero := (e.marco + 1) % cfg.cantidadMarcos } :=
    ligada_congr rep.ligada rfl rfl rfl
  refine Talk.ensures_bind (desalojar_modificados lig clock bits.modificados queryId p e)
    fun mem' left => ?_
  obtain ⟨reference, hand, dirty, clean⟩ := left
  refine ⟨e.marco, p, e, referencia, rfl, range, hp, he, choice, hand, fun m other => ?_⟩
  dsimp only
  rw [Function.update_of_ne other, Function.update_of_ne other, reference]
  refine ⟨rfl, fun both => (dirty both.1).suyos m both.2, fun neither => ?_⟩
  cases modified : e.modificada with
  | false => exact congrFun (clean modified) m
  | true => exact (dirty modified).ajenos m fun there => neither ⟨modified, there⟩

def dosMarcos : ConfigMemoria := ⟨2, 1, .clockM, Nat.one_pos, Nat.le_add_right 1 1⟩

def escritaYLeida : List Llamada :=
  [.accederMemoria 7 aUno 0 1 (some [120]), .accederMemoria 7 aUno 1 1 none]

/-- Both are referenced, and page 1, which is not modified, goes out in the third turn. -/
theorem clock_da_segunda_oportunidad_escritaYLeida : ∃ mem : MemoriaInterna,
    ((mem.bitsReferencia 0 = true ∧ mem.bitsModificados 0 = true) ∧
      mem.bitsReferencia 1 = true ∧ mem.bitsModificados 1 = false) ∧
    (elegirVictima dosMarcos mem).1 = some 1 ∧
      (aplicarClockM dosMarcos mem 7).Ensures (SegundaOportunidad dosMarcos mem) := by
  let mc := mallocEnOrden fun mem _ _ => mem
  have naturales : ∀ l ∈ escritaYLeida, l.Natural := by
    simp only [escritaYLeida, List.forall_mem_cons]
    exact ⟨le_refl 0, Int.one_nonneg, by simp⟩
  obtain ⟨mem, ends, first, second, bits, chosen⟩ : ∃ mem,
      (llamarTodas dosMarcos mc (crearMemoria dosMarcos) escritaYLeida).Ends mem ∧
      (mem.marcos 0).libre = false ∧ (mem.marcos 1).libre = false ∧
      ((mem.bitsReferencia 0 = true ∧ mem.bitsModificados 0 = true) ∧
        mem.bitsReferencia 1 = true ∧ mem.bitsModificados 1 = false) ∧
      (elegirVictima dosMarcos mem).1 = some 1 :=
    ⟨_, ⟨bloqueVacio, bloqueVacio, rfl⟩, rfl, rfl, ⟨⟨rfl, rfl⟩, rfl, rfl⟩, rfl⟩
  have rep : Representacion dosMarcos mem := Talk.ensures_iff.mp
    (representacion_siempre dosMarcos mc escritaYLeida naturales) mem ends
  have full : ∀ m, m < dosMarcos.cantidadMarcos → (mem.marcos m).libre = false := by
    intro m hm
    have two : dosMarcos.cantidadMarcos = 2 := rfl
    obtain rfl | rfl : m = 0 ∨ m = 1 := by omega
    · exact first
    · exact second
  exact ⟨mem, bits, chosen, clock_da_segunda_oportunidad rep rfl full 7⟩

end WorkerReloj
