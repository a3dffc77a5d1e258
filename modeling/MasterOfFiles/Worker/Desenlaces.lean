import Mathlib.Algebra.Order.BigOperators.Group.List
import Mathlib.Algebra.Order.Ring.Nat
import MasterOfFiles.Lib.GuardedRuns
import MasterOfFiles.Worker.Pasos

/-!
How many messages that end an assignment a Worker sends for it. Exactly one, unless an error
is reported, or an interruption found, while the flag of an earlier error is still up.
-/
namespace WorkerDesenlaces
open Mensajes WorkerInformes WorkerInterprete WorkerPasos GuardedRuns

def UnDesenlace (queryId : Int) (ms : List Paquete) : Prop :=
  (desenlaces ms).map Paquete.queryId = [some queryId]

instance (queryId : Int) (ms : List Paquete) : Decidable (UnDesenlace queryId ms) :=
  inferInstanceAs (Decidable (_ = _))

def CerradasConUno (w : Worker) : Prop := ∀ a ∈ w.cerradas, UnDesenlace a.1 a.2

/-- Each assignment left has one ending message with its id, and the one the Worker is on
    has at most one so far. -/
def UnDesenlacePorAsignacion (w : Worker) : Prop :=
  CerradasConUno w ∧ (desenlaces w.enviados).length ≤ 1

instance (w : Worker) : Decidable (UnDesenlacePorAsignacion w) :=
  inferInstanceAs (Decidable ((∀ a ∈ w.cerradas, UnDesenlace a.1 a.2) ∧ _ ≤ 1))

/-- error_storage is up exactly while the assignment has its ending message already. -/
structure Coherente (w : Worker) : Prop where
  libre : w.hilo = .esperando → desenlaces w.enviados = [] ∧ w.errorStorage = false
  ids : ∀ queryId, asignada w = some queryId →
    ∀ m ∈ desenlaces w.enviados, m.queryId = some queryId
  flag : ∀ queryId, asignada w = some queryId →
    (w.errorStorage = true ↔ desenlaces w.enviados ≠ [])

variable {w w' : Worker} {e : Evento} {queryId : Int} {m : Paquete}

theorem desenlaces_snoc (ms : List Paquete) (h : Desenlace queryId m) :
    desenlaces (ms ++ [m]) = desenlaces ms ++ [m] := by
  simp [desenlaces, desenlace_terminaAsignacion h]

theorem unDesenlace_snoc {ms : List Paquete} (h : Desenlace queryId m) :
    UnDesenlace queryId (ms ++ [m]) ↔ desenlaces ms = [] := by
  rw [UnDesenlace, desenlaces_snoc ms h, List.map_append, List.map_singleton,
    desenlace_queryId h]
  simp

theorem cerradasConUno_append {a : Int × List Paquete} (h : w'.cerradas = w.cerradas ++ [a]) :
    CerradasConUno w' ↔ CerradasConUno w ∧ UnDesenlace a.1 a.2 := by
  rw [CerradasConUno, h]
  simp only [List.mem_append, List.mem_singleton, or_imp, forall_and, forall_eq]
  rfl

theorem coherente_esperando (libre : w.hilo = .esperando) (vacio : w.enviados = [])
    (flag : w.errorStorage = false) : Coherente w := by
  have ninguna : asignada w = none := asignada_none.mpr libre
  constructor
  · intro _
    exact ⟨by simp [desenlaces, vacio], flag⟩
  · intro queryId h
    rw [ninguna] at h
    contradiction
  · intro queryId h
    rw [ninguna] at h
    contradiction

theorem flag_of_coherente (inv : Coherente w) (vacio : desenlaces w.enviados = []) :
    w.errorStorage = false := by
  cases h : asignada w with
  | none => exact (inv.libre (asignada_none.mp h)).2
  | some queryId =>
    have h := inv.flag queryId h
    simpa [vacio] using h

theorem coherente_paso (h : Efecto w e w') (inv : CerradasConUno w → Coherente w) :
    CerradasConUno w' → Coherente w' := by
  intro bien
  cases h with
  | sigue query mismos cerradas flag doble =>
    have antes := inv (by simpa [CerradasConUno, cerradas] using bien)
    constructor
    · intro libre
      rw [mismos, flag]
      exact antes.libre (asignada_none.mp (query.symm.trans (asignada_none.mpr libre)))
    · rw [mismos, query]
      exact antes.ids
    · rw [mismos, flag, query]
      exact antes.flag
  | recibe queryId libre query mismos cerradas flag doble suya =>
    have antes := inv (by simpa [CerradasConUno, cerradas] using bien)
    obtain ⟨vacio, abajo⟩ := antes.libre libre
    constructor
    · intro h
      rw [asignada_none.mpr h] at query
      contradiction
    · intro _ _
      simp [mismos, vacio]
    · intro _ _
      simp [mismos, vacio, flag, abajo]
  | falla queryId m yaEra query desenlace envia cerradas flag doble =>
    have antes := inv (by simpa [CerradasConUno, cerradas] using bien)
    constructor
    · intro h
      rw [asignada_none.mpr h] at query
      contradiction
    · intro q hq m' hm'
      have same : q = queryId := Option.some.inj (hq.symm.trans query)
      rw [same]
      rw [envia, desenlaces_snoc _ desenlace, List.mem_append, List.mem_singleton] at hm'
      rcases hm' with viejo | rfl
      · exact antes.ids queryId yaEra m' viejo
      · exact desenlace_queryId desenlace
    · intro _ _
      simp [flag, envia, desenlaces_snoc _ desenlace]
  | termina queryId m yaEra libre desenlace cerradas enviados flag doble espera =>
    obtain ⟨antesBien, uno⟩ := (cerradasConUno_append cerradas).mp bien
    have vacio := (unDesenlace_snoc desenlace).mp uno
    exact coherente_esperando libre enviados
      (flag.trans (flag_of_coherente (inv antesBien) vacio))
  | limpia queryId yaEra libre cerradas enviados estaba flag doble =>
    exact coherente_esperando libre enviados flag

theorem unDesenlace_paso (h : Efecto w e w') (inv : Coherente w)
    (bien : UnDesenlacePorAsignacion w) :
    UnDesenlacePorAsignacion w' ↔ desenlaceDoble w e = false := by
  obtain ⟨antes, alMenos⟩ := bien
  cases h with
  | sigue query mismos cerradas flag doble =>
    simpa [UnDesenlacePorAsignacion, CerradasConUno, cerradas, mismos, doble, alMenos]
      using antes
  | recibe queryId libre query mismos cerradas flag doble suya =>
    simpa [UnDesenlacePorAsignacion, CerradasConUno, cerradas, mismos, doble, alMenos]
      using antes
  | falla queryId m yaEra query desenlace envia cerradas flag doble =>
    have sinCerrar : CerradasConUno w' := by simpa [CerradasConUno, cerradas] using antes
    rw [doble, ← Bool.not_eq_true, inv.flag queryId yaEra, not_not]
    simp only [UnDesenlacePorAsignacion, envia, desenlaces_snoc _ desenlace, List.length_append,
      List.length_singleton]
    constructor
    · rintro ⟨_, uno⟩
      exact List.length_eq_zero_iff.mp (by omega)
    · intro vacio
      exact ⟨sinCerrar, by simp [vacio]⟩
  | termina queryId m yaEra libre desenlace cerradas enviados flag doble espera =>
    have nuevo : UnDesenlacePorAsignacion w' ↔ desenlaces w.enviados = [] := by
      rw [UnDesenlacePorAsignacion, cerradasConUno_append cerradas, enviados,
        unDesenlace_snoc desenlace]
      simp [antes, desenlaces]
    rw [nuevo]
    rcases yaEra with ocupado | esperando
    · have activo : w.hilo ≠ .esperando := by
        intro h
        rw [asignada_none.mpr h] at ocupado
        contradiction
      rw [doble activo, ← Bool.not_eq_true, inv.flag queryId ocupado, not_not]
    · simp [(inv.libre esperando).1, espera esperando]
  | limpia queryId yaEra libre cerradas enviados estaba flag doble =>
    have hayUno : desenlaces w.enviados ≠ [] := (inv.flag queryId yaEra).mp estaba
    obtain ⟨m, solo⟩ : ∃ m, desenlaces w.enviados = [m] := by
      apply List.length_eq_one_iff.mp
      have := List.length_pos_iff.mpr hayUno
      omega
    have uno : UnDesenlace queryId w.enviados := by
      rw [UnDesenlace, solo, List.map_singleton, inv.ids queryId yaEra m (by simp [solo])]
    have nuevo : UnDesenlacePorAsignacion w' :=
      ⟨(cerradasConUno_append cerradas).mpr ⟨antes, uno⟩, by simp [enviados, desenlaces]⟩
    simp [nuevo, doble]

def propio (w : Worker) (e : Evento) : Bool :=
  match w.hilo, e with
  | .ciclo _, .avance => true
  | .respuesta .., .respuesta _ => true
  | .acceso .., .pagina _ => true
  | .chequeo _, .avance => true
  | _, _ => false

def esperas (tamanioPagina : Nat) (p : Parametros) : Instruccion → Nat
  | .write => paginasDeAcceso tamanioPagina p.direccionBase p.contenido.utf8ByteSize
  | .read => paginasDeAcceso tamanioPagina p.direccionBase p.tamanio.toNat
  | .commit => 2
  | _ => 1

def costo (tamanioPagina : Nat) : Decode → Nat
  | .ejecuta i p => esperas tamanioPagina p i + 2
  | _ => 2

/-- A bound on the steps of its own that a Worker takes before it waits for a query. -/
def trabajo (tamanioPagina : Nat) (w : Worker) : Nat :=
  let lineas (pcb : Pcb) : Nat := (pcb.archivo.map (costo tamanioPagina)).sum
  match w.hilo with
  | .esperando => 0
  | .ciclo pcb => 1 + lineas pcb
  | .respuesta pcb _ _ despues => despues.length + 3 + lineas pcb
  | .acceso pcb _ _ paginas _ => paginas - 1 + 3 + lineas pcb
  | .chequeo pcb => 2 + lineas pcb

theorem fetch_costo {pcb : Pcb} {pc : Nat} {i : Instruccion} {p : Parametros}
    {resto : List Decode} (tamanioPagina : Nat) (h : fetch pcb pc = (.ejecuta i p, resto)) :
    (resto.map (costo tamanioPagina)).sum + esperas tamanioPagina p i + 2 ≤
      (pcb.archivo.map (costo tamanioPagina)).sum := by
  have some_lines : ∀ lineas, lineas.Sublist pcb.archivo → lineas = .ejecuta i p :: resto →
      (resto.map (costo tamanioPagina)).sum + esperas tamanioPagina p i + 2 ≤
        (pcb.archivo.map (costo tamanioPagina)).sum := by
    rintro lineas sub rfl
    have le := (sub.map (costo tamanioPagina)).sum_le_sum (by simp)
    simp only [List.map_cons, List.sum_cons, costo] at le
    omega
  have sub : (if pcb.pc ≠ 0 ∧ pc = pcb.pc then pcb.archivo.drop pcb.pc
      else pcb.archivo).Sublist pcb.archivo := by
    split
    · exact List.drop_sublist _ _
    · exact List.Sublist.refl _
  unfold fetch at h
  split at h
  · simp at h
  · next linea resto' hl =>
    simp only [Prod.mk.injEq] at h
    rw [h.1, h.2] at hl
    exact some_lines _ sub hl

theorem execute_trabajo (tamanioPagina : Nat) (w : Worker) (pcb : Pcb) (p : Parametros)
    (i : Instruccion) :
    trabajo tamanioPagina { w with hilo := execute tamanioPagina pcb p i } ≤
      esperas tamanioPagina p i + 2 + (pcb.archivo.map (costo tamanioPagina)).sum := by
  cases i with
  | write | read =>
    simp only [execute, accederMemoria, esperas]
    split <;> simp_all [trabajo]
  | _ => simp [execute, trabajo, esperas]

variable (archivos : String → Option (List Decode)) (tamanioPagina : Nat)

theorem trabajo_ciclo {pcb : Pcb} (h : w.hilo = .ciclo pcb) :
    trabajo tamanioPagina (queryInterpreterCiclo tamanioPagina w pcb) <
      trabajo tamanioPagina w := by
  have antes : trabajo tamanioPagina w = 1 + (pcb.archivo.map (costo tamanioPagina)).sum := by
    simp [trabajo, h]
  unfold queryInterpreterCiclo
  split
  · simp only [trabajo, h, Worker.dejar]
    omega
  · cases linea : fetch pcb w.pc with
    | mk l resto =>
      cases l with
      | fin =>
        simp only [trabajo, h, Worker.dejar]
        omega
      | malformada instruccion =>
        simp only [trabajo, h, Worker.dejar]
        omega
      | ejecuta i p =>
        have le := fetch_costo tamanioPagina linea
        have ejecuta := execute_trabajo tamanioPagina { w with pc := w.pc + 1 }
          { pcb with archivo := resto } p i
        dsimp only at ejecuta ⊢
        omega

theorem trabajo_propio (w : Worker) (e : Evento) (h : propio w e = true) :
    trabajo tamanioPagina (paso archivos tamanioPagina w e) < trabajo tamanioPagina w := by
  cases hilo : w.hilo with
  | esperando => simp [propio, hilo] at h
  | ciclo pcb =>
    cases e with
    | avance => simpa only [paso, hilo] using trabajo_ciclo tamanioPagina hilo
    | _ => simp [propio, hilo] at h
  | respuesta pcb p pedido despues =>
    cases e with
    | respuesta ok =>
      simp only [paso, hilo, leerRespuesta]
      cases despues with
      | nil => simp [trabajo, hilo]
      | cons siguiente resto => simp [trabajo, hilo]
    | _ => simp [propio, hilo] at h
  | acceso pcb p esEscritura paginas leido =>
    cases e with
    | pagina contenido =>
      simp only [paso, hilo]
      cases contenido with
      | none => simp [trabajo, hilo, accesoAPagina, Worker.enviar]
      | some contenido =>
        simp only [accesoAPagina]
        split
        · simp only [trabajo, hilo]
          omega
        · split <;> simp [trabajo, hilo, Worker.enviar]
    | _ => simp [propio, hilo] at h
  | chequeo pcb =>
    cases e with
    | avance =>
      simp only [paso, hilo, checkInterrupt]
      split
      · simp only [trabajo, hilo, Worker.dejar]
        omega
      · simp [trabajo, hilo]
    | _ => simp [propio, hilo] at h

theorem hilo_ajeno (w : Worker) (e : Evento) (h : propio w e = false)
    (ocupado : w.hilo ≠ .esperando) : (paso archivos tamanioPagina w e).hilo = w.hilo := by
  cases e with
  | interrupcion desconectado | marca =>
    simp only [paso]
    split <;> rfl
  | _ => cases hilo : w.hilo <;> simp_all [propio, paso]

theorem vuelve_a_esperar (w : Worker) (es : List Evento)
    (enough : trabajo tamanioPagina w ≤
      countAlong (paso archivos tamanioPagina) propio w es) :
    ∃ pre, pre <+: es ∧ (pre.foldl (paso archivos tamanioPagina) w).hilo = .esperando := by
  apply done_within_measure (trabajo tamanioPagina) (fun w => w.hilo = .esperando) _ _ _ enough
  · intro w nada
    cases h : w.hilo <;> simp_all [trabajo]
  · exact trabajo_propio archivos tamanioPagina
  · intro w e ajeno ocupado
    exact Nat.le_of_eq (by
      simp only [trabajo, hilo_ajeno archivos tamanioPagina w e ajeno ocupado])

/-- Over every run: each assignment has one outcome exactly when no step doubles one, and the
    Worker comes back to wait for a query after as many steps of its own as trabajo bounds. -/
theorem un_desenlace_por_asignacion (es : List Evento) :
    ((∀ pre, pre <+: es →
        UnDesenlacePorAsignacion (pre.foldl (paso archivos tamanioPagina) workerInicial)) ↔
      Along (paso archivos tamanioPagina) (fun w e => desenlaceDoble w e = false)
        workerInicial es) ∧
    ∀ w more, trabajo tamanioPagina w ≤ countAlong (paso archivos tamanioPagina) propio w more →
      ∃ pre, pre <+: more ∧
        (pre.foldl (paso archivos tamanioPagina) w).hilo = .esperando := by
  constructor
  · apply every_prefix_iff_along (fun w => CerradasConUno w → Coherente w)
      UnDesenlacePorAsignacion
    · intro w e inv
      exact coherente_paso (paso_efecto archivos tamanioPagina w e) inv
    · intro w e inv bien
      exact unDesenlace_paso (paso_efecto archivos tamanioPagina w e) (inv bien.1) bien
    · intro _
      exact coherente_esperando rfl rfl rfl
    · decide
  · exact vuelve_a_esperar archivos tamanioPagina

def soloCommit : List Decode := [.ejecuta .commit ⟨"F", "T", 0, 0, "", "", "", "", ""⟩]

/-- Storage refuses the flush and then the commit, as it does when F:T does not exist. -/
def commitRechazado : List Evento :=
  [.asignacion 7 "q" 0, .avance, .respuesta false, .respuesta false, .avance, .avance]

theorem commit_rechazado_dos_desenlaces :
    let w := commitRechazado.foldl (paso (fun _ => some soloCommit) 16) workerInicial
    w.hilo = .esperando ∧ w.cerradas.map (fun a => (a.1, (desenlaces a.2).map Paquete.codigo)) =
      [(7, [.workerErrorFlush, .workerErrorCommit])] ∧ ¬ UnDesenlacePorAsignacion w := by
  decide

end WorkerDesenlaces
