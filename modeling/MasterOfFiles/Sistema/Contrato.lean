import MasterOfFiles.Master.Buzones
import MasterOfFiles.QueryControl.Lecturas
import MasterOfFiles.Sistema.Interrupciones
import MasterOfFiles.Worker.Desenlaces

/-!
What the Master counts on from its Workers is what they do. A run of the Master and its Workers
together is, for the Master, a run in which every Worker reports as it should, so that what
holds of those runs holds of the whole.
-/
namespace SistemaContrato
open Mensajes MasterEstado MasterMarcos MasterConexiones MasterLibro MasterBuzones
open WorkerInformes WorkerPasos WorkerDesenlaces SistemaRed SistemaInterrupciones
open QueryControlLecturas GuardedRuns
open MasterHilos hiding Evento paso
open WorkerInterprete hiding Evento paso

variable {config : Config} {archivos : Nat → String → Option (List Decode)} {tamanioPagina : Nat}
variable {S : Sistema} {c : Nat} {q : Int} {w w' : Worker}

def EnAcceso (w : Worker) : Prop :=
  ∀ pcb p esEscritura paginas leido, w.hilo = .acceso pcb p esEscritura paginas leido →
    w.errorStorage = false

/-- What one step sends, and whether the assignment is left. -/
inductive Envia (w : Worker) (e : WorkerInterprete.Evento) (w' : Worker) : Prop
  | nada (salida : w'.salida = w.salida) (mismos : desenlaces w'.enviados = desenlaces w.enviados)
      (cerradas : w'.cerradas = w.cerradas)
  | lee (q : Int) (m : Paquete) (antes : asignada w = some q) (lectura : Lectura q m)
      (limpio : w.errorStorage = false) (salida : w'.salida = w.salida ++ [m])
      (mismos : desenlaces w'.enviados = desenlaces w.enviados)
      (cerradas : w'.cerradas = w.cerradas)
  | falla (q : Int) (m : Paquete) (antes : asignada w = some q) (cierre : Cierre q m)
      (salida : w'.salida = w.salida ++ [m])
      (mas : desenlaces w'.enviados = desenlaces w.enviados ++ [m])
      (cerradas : w'.cerradas = w.cerradas)
  | termina (q : Int) (m : Paquete)
      (antes : asignada w = some q ∨ ∃ path pc, e = .asignacion q path pc ∧ w.hilo = .esperando)
      (cierre : Cierre q m) (salida : w'.salida = w.salida ++ [m])
      (enviados : w'.enviados = [])
      (cerradas : w'.cerradas = w.cerradas ++ [(q, w.enviados ++ [m])])
  | limpia (q : Int) (antes : asignada w = some q) (estaba : w.errorStorage = true)
      (salida : w'.salida = w.salida) (enviados : w'.enviados = [])
      (cerradas : w'.cerradas = w.cerradas ++ [(q, w.enviados)])

theorem ciclo_envia {pcb : Pcb} (h : w.hilo = .ciclo pcb) :
    Envia w .avance (queryInterpreterCiclo tamanioPagina w pcb) := by
  have antes : asignada w = some pcb.queryId := by simp [asignada, h, Hilo.asignada]
  unfold queryInterpreterCiclo
  cases flag : w.errorStorage with
  | true => exact .limpia pcb.queryId antes flag rfl rfl rfl
  | false =>
    cases linea : fetch pcb w.pc with
    | mk l resto =>
      cases l with
      | fin => exact .termina pcb.queryId _ (.inl antes) ⟨.fin, by rintro ⟨⟩⟩ rfl rfl rfl
      | malformada instruccion =>
        exact .termina pcb.queryId _ (.inl antes) ⟨.malformada instruccion, by rintro ⟨⟩⟩
          rfl rfl rfl
      | ejecuta i p => exact .nada rfl rfl rfl

theorem checkInterrupt_envia {pcb : Pcb} (h : w.hilo = .chequeo pcb)
    (presente : w.queryDesconectado = false) : Envia w .avance (checkInterrupt w pcb) := by
  have antes : asignada w = some pcb.queryId := by simp [asignada, h, Hilo.asignada]
  unfold checkInterrupt
  cases hay : w.hayInterrupcion with
  | false => exact .nada rfl rfl rfl
  | true =>
    refine .termina pcb.queryId _ (.inl antes) ⟨.interrupcion .., ?_⟩ rfl rfl rfl
    simp [interruptEnvioAMaster, presente]

theorem informe_cierre (p : Parametros) (queryId : Int) (pedido : PedidoStorage) :
    ∃ m, informeDeRespuesta p queryId (pedido.codigoRespuesta false) = some m ∧
      Cierre queryId m := by
  obtain ⟨m, informe, desenlace⟩ := informe_desenlace p queryId pedido
  refine ⟨m, informe, desenlace, ?_⟩
  cases pedido <;> (cases informe; rintro ⟨⟩)

theorem leerRespuesta_envia {pcb : Pcb} {p : Parametros} {pedido : PedidoStorage}
    {despues : List PedidoStorage} (h : w.hilo = .respuesta pcb p pedido despues) (ok : Bool) :
    Envia w (.respuesta ok) (leerRespuesta w pcb p pedido despues ok) := by
  have antes : asignada w = some pcb.queryId := by simp [asignada, h, Hilo.asignada]
  unfold leerRespuesta rtasStorage
  cases ok with
  | true =>
    rw [informe_ok]
    cases despues <;> exact .nada rfl rfl rfl
  | false =>
    obtain ⟨m, informe, cierre⟩ := informe_cierre p pcb.queryId pedido
    have mas := desenlaces_snoc w.enviados cierre.1
    rw [informe]
    cases despues <;> exact .falla pcb.queryId m antes cierre rfl mas rfl

theorem accesoAPagina_envia {pcb : Pcb} {p : Parametros} {esEscritura : Bool} {paginas : Nat}
    {leido : String} (h : w.hilo = .acceso pcb p esEscritura paginas leido) (acceso : EnAcceso w)
    (contenido : Option String) :
    Envia w (.pagina contenido)
      (accesoAPagina w pcb p esEscritura paginas leido contenido) := by
  have antes : asignada w = some pcb.queryId := by simp [asignada, h, Hilo.asignada]
  cases contenido with
  | none =>
    cases esEscritura with
    | true =>
      have desenlace : Desenlace pcb.queryId _ := .tamanioEscritura p.nombreFile p.tag
      exact .falla pcb.queryId _ antes ⟨desenlace, by rintro ⟨⟩⟩ rfl
        (desenlaces_snoc _ desenlace) rfl
    | false =>
      have desenlace : Desenlace pcb.queryId _ := .tamanioLectura p.nombreFile p.tag
      exact .falla pcb.queryId _ antes ⟨desenlace, by rintro ⟨⟩⟩ rfl
        (desenlaces_snoc _ desenlace) rfl
  | some contenido =>
    unfold accesoAPagina
    dsimp only
    split
    · exact .nada rfl rfl rfl
    · cases esEscritura with
      | true => exact .nada rfl rfl rfl
      | false =>
        have mismos : desenlaces (w.enviados ++ [readResult p pcb.queryId (leido ++ contenido)
            w.pc]) = desenlaces w.enviados := by
          simp [desenlaces, readResult_continues]
        exact .lee pcb.queryId _ antes ⟨p, leido ++ contenido, w.pc, rfl⟩ (acceso _ _ _ _ _ h) rfl
          mismos rfl

theorem paso_envia (archivos : String → Option (List Decode)) (tamanioPagina : Nat) (w : Worker)
    (e : WorkerInterprete.Evento) (acceso : EnAcceso w) (presente : w.queryDesconectado = false) :
    Envia w e (WorkerInterprete.paso archivos tamanioPagina w e) := by
  have quieto : Envia w e w := .nada rfl rfl rfl
  cases e with
  | asignacion queryId path pc =>
    cases libre : w.hilo with
    | esperando =>
      cases abierto : archivos path with
      | none =>
        simp only [WorkerInterprete.paso, libre, abierto]
        exact .termina queryId _ (.inr ⟨path, pc, rfl, libre⟩)
          ⟨.noEncontrada path, by rintro ⟨⟩⟩ rfl rfl rfl
      | some lineas =>
        simp only [WorkerInterprete.paso, libre, abierto]
        exact .nada rfl rfl rfl
    | _ => simpa only [WorkerInterprete.paso, libre] using quieto
  | avance =>
    cases h : w.hilo with
    | ciclo pcb => simpa only [WorkerInterprete.paso, h] using ciclo_envia h
    | chequeo pcb => simpa only [WorkerInterprete.paso, h] using checkInterrupt_envia h presente
    | _ => simpa only [WorkerInterprete.paso, h] using quieto
  | respuesta ok =>
    cases h : w.hilo with
    | respuesta pcb p pedido despues =>
      simpa only [WorkerInterprete.paso, h] using leerRespuesta_envia h ok
    | _ => simpa only [WorkerInterprete.paso, h] using quieto
  | pagina contenido =>
    cases h : w.hilo with
    | acceso pcb p esEscritura paginas leido =>
      simpa only [WorkerInterprete.paso, h] using accesoAPagina_envia h acceso contenido
    | _ => simpa only [WorkerInterprete.paso, h] using quieto
  | interrupcion desconectado | marca =>
    simp only [WorkerInterprete.paso]
    split
    · exact .nada rfl rfl rfl
    · exact .nada rfl rfl rfl

theorem paso_acceso (archivos : String → Option (List Decode)) (tamanioPagina : Nat)
    (e : WorkerInterprete.Evento) (acceso : EnAcceso w) :
    EnAcceso (WorkerInterprete.paso archivos tamanioPagina w e) := by
  have fuera {w' : Worker} (sin : ∀ pcb p esEscritura paginas leido,
      w'.hilo ≠ .acceso pcb p esEscritura paginas leido) : EnAcceso w' :=
    fun _ _ _ _ _ en => (sin _ _ _ _ _ en).elim
  have igual {w' : Worker} (flag : w'.errorStorage = w.errorStorage)
      (hilo : w'.hilo = w.hilo) : EnAcceso w' := by
    intro pcb p esEscritura paginas leido en
    rw [flag]
    exact acceso pcb p esEscritura paginas leido (hilo.symm.trans en)
  cases e with
  | asignacion queryId path pc =>
    cases libre : w.hilo with
    | esperando =>
      cases abierto : archivos path with
      | none =>
        simp only [WorkerInterprete.paso, libre, abierto]
        exact fuera (by rintro _ _ _ _ _ ⟨⟩)
      | some lineas =>
        simp only [WorkerInterprete.paso, libre, abierto]
        exact fuera (by rintro _ _ _ _ _ ⟨⟩)
    | _ => simpa only [WorkerInterprete.paso, libre] using acceso
  | avance =>
    cases h : w.hilo with
    | ciclo pcb =>
      simp only [WorkerInterprete.paso, h, queryInterpreterCiclo]
      cases flag : w.errorStorage with
      | true => exact fuera (by rintro _ _ _ _ _ ⟨⟩)
      | false =>
        cases linea : fetch pcb w.pc with
        | mk l resto =>
          cases l with
          | fin | malformada => exact fuera (by rintro _ _ _ _ _ ⟨⟩)
          | ejecuta i p => exact fun _ _ _ _ _ _ => rfl
    | chequeo pcb =>
      simp only [WorkerInterprete.paso, h, checkInterrupt]
      split <;> exact fuera (by rintro _ _ _ _ _ ⟨⟩)
    | _ => simpa only [WorkerInterprete.paso, h] using acceso
  | respuesta ok =>
    cases h : w.hilo with
    | respuesta pcb p pedido despues =>
      simp only [WorkerInterprete.paso, h, leerRespuesta]
      cases despues <;> exact fuera (by rintro _ _ _ _ _ ⟨⟩)
    | _ => simpa only [WorkerInterprete.paso, h] using acceso
  | pagina contenido =>
    cases h : w.hilo with
    | acceso pcb p esEscritura paginas leido =>
      simp only [WorkerInterprete.paso, h]
      have limpio := acceso _ _ _ _ _ h
      cases contenido with
      | none => exact fuera (by rintro _ _ _ _ _ ⟨⟩)
      | some contenido =>
        simp only [accesoAPagina]
        split
        · exact fun _ _ _ _ _ _ => limpio
        · split <;> exact fuera (by rintro _ _ _ _ _ ⟨⟩)
    | _ => simpa only [WorkerInterprete.paso, h] using acceso
  | interrupcion desconectado | marca =>
    simp only [WorkerInterprete.paso]
    split
    · exact igual rfl rfl
    · exact igual rfl rfl

theorem paso_queryDesconectado (archivos : String → Option (List Decode)) (tamanioPagina : Nat)
    {e : WorkerInterprete.Evento} (otra : ∀ desconectado, e ≠ .interrupcion desconectado) :
    (WorkerInterprete.paso archivos tamanioPagina w e).queryDesconectado =
      w.queryDesconectado := by
  cases e with
  | asignacion queryId path pc =>
    cases libre : w.hilo with
    | esperando =>
      simp only [WorkerInterprete.paso, libre]
      split <;> rfl
    | _ => simp only [WorkerInterprete.paso, libre]
  | avance =>
    cases h : w.hilo with
    | ciclo pcb =>
      simp only [WorkerInterprete.paso, h, queryInterpreterCiclo]
      split
      · rfl
      · cases (fetch pcb w.pc).1 <;> rfl
    | chequeo pcb =>
      simp only [WorkerInterprete.paso, h, checkInterrupt]
      split <;> rfl
    | _ => simp only [WorkerInterprete.paso, h]
  | respuesta ok =>
    cases h : w.hilo with
    | respuesta pcb p pedido despues =>
      simp only [WorkerInterprete.paso, h, leerRespuesta, rtasStorage]
      cases informeDeRespuesta p pcb.queryId (pedido.codigoRespuesta ok) <;>
        cases despues <;> rfl
    | _ => simp only [WorkerInterprete.paso, h]
  | pagina contenido =>
    cases h : w.hilo with
    | acceso pcb p esEscritura paginas leido =>
      simp only [WorkerInterprete.paso, h]
      cases contenido with
      | none => rfl
      | some contenido =>
        simp only [accesoAPagina]
        split
        · rfl
        · split <;> rfl
    | _ => simp only [WorkerInterprete.paso, h]
  | interrupcion desconectado => exact (otra desconectado rfl).elim
  | marca =>
    simp only [WorkerInterprete.paso]
    split <;> rfl

def hechas (w : Worker) : Nat := if desenlaces w.enviados = [] then 0 else 1

/-- A Worker that runs the first assignment of its connection and has sent no second end. -/
structure Cumple (S : Sistema) (c : Nat) : Prop where
  salida : (S.workers c).salida = []
  actual : ∀ q, asignada (S.workers c) = some q → actual (S.master.conexiones c) = some q
  uno : UnDesenlacePorAsignacion (S.workers c)
  coherente : Coherente (S.workers c)
  acceso : EnAcceso (S.workers c)
  presente : (S.workers c).queryDesconectado = false
  desalojos : ∀ i ∈ (S.master.conexiones c).interrupciones, i.1 = .workerDesalojo

theorem cumple_nuevo (worker : S.workers c = workerInicial)
    (avisos : (S.master.conexiones c).interrupciones = []) : Cumple S c := by
  constructor
  · rw [worker]
    rfl
  · rw [worker]
    rintro q ⟨⟩
  · rw [worker]
    decide
  · rw [worker]
    exact coherente_esperando rfl rfl rfl
  · rw [worker]
    rintro _ _ _ _ _ ⟨⟩
  · rw [worker]
    rfl
  · rw [avisos]
    rintro i ⟨⟩

theorem hechas_of_limpio (inv : Coherente w) (limpio : w.errorStorage = false) :
    hechas w = 0 := by
  have vacio : desenlaces w.enviados = [] := by
    cases h : asignada w with
    | none => exact (inv.libre (asignada_none.mp h)).1
    | some q =>
      by_contra hay
      exact Bool.false_ne_true (limpio.symm.trans ((inv.flag q h).mpr hay))
  simp [hechas, vacio]

theorem hechas_of_error (inv : Coherente w) (h : asignada w = some q)
    (error : w.errorStorage = true) : hechas w = 1 := by
  have hay := (inv.flag q h).mp error
  simp [hechas, hay]

theorem asignaciones_of_actual {con : Conexion} (h : SistemaInterrupciones.actual con = some q) :
    ∃ a resto, con.asignaciones = a :: resto ∧ a.entero 1 = some q := by
  unfold SistemaInterrupciones.actual at h
  cases lista : con.asignaciones with
  | nil => simp [lista] at h
  | cons a resto => exact ⟨a, resto, rfl, by simpa [lista] using h⟩

theorem hechas_le (cumple : Cumple S c) :
    hechas (S.workers c) ≤ (S.master.conexiones c).asignaciones.length := by
  unfold hechas
  split
  · exact Nat.zero_le _
  · next hay =>
    cases h : asignada (S.workers c) with
    | none => exact (hay (cumple.coherente.libre (asignada_none.mp h)).1).elim
    | some q =>
      obtain ⟨a, resto, lista, _⟩ := asignaciones_of_actual (cumple.actual q h)
      simp [lista]

theorem cumple_ejecutar (cumple : Cumple S c) {e : WorkerInterprete.Evento}
    (otra : ∀ desconectado, e ≠ .interrupcion desconectado)
    (tomada : ∀ q path pc, e = .asignacion q path pc →
      SistemaInterrupciones.actual (S.master.conexiones c) = some q)
    (guarda : desenlaceDoble (S.workers c) e = false) :
    Cumple (ejecutar archivos tamanioPagina S c e) c := by
  have efecto := paso_efecto (archivos c) tamanioPagina (S.workers c) e
  have worker : (ejecutar archivos tamanioPagina S c e).workers c =
      { WorkerInterprete.paso (archivos c) tamanioPagina (S.workers c) e with salida := [] } := by
    rw [ejecutar_workers, Function.update_self]
  have uno := (unDesenlace_paso efecto cumple.coherente cumple.uno).mpr guarda
  have coherente := coherente_paso efecto (fun _ => cumple.coherente) uno.1
  constructor
  · rw [worker]
  · intro q hq
    rw [worker] at hq
    rcases asignada_paso (archivos c) tamanioPagina (S.workers c) e with
      ⟨mismas, igual | ⟨t, path, pc, same, suya⟩⟩ | ⟨_, libre⟩
    · rw [ejecutar_master, entregar_misma mismas]
      exact cumple.actual q (igual.symm.trans hq)
    · rw [ejecutar_master, entregar_misma mismas]
      exact (tomada t path pc same).trans (suya.symm.trans hq)
    · cases libre.symm.trans hq
  · rw [worker]
    exact uno
  · rw [worker]
    exact ⟨coherente.libre, coherente.ids, coherente.flag⟩
  · rw [worker]
    exact paso_acceso (archivos c) tamanioPagina e cumple.acceso
  · rw [worker]
    exact (paso_queryDesconectado (archivos c) tamanioPagina otra).trans cumple.presente
  · rw [ejecutar_master]
    intro i hi
    refine cumple.desalojos i ?_
    rw [entregar] at hi
    simpa [Master.enConexion] using hi

def restantes (S : Sistema) (c : Nat) : List Paquete :=
  (S.master.conexiones c).asignaciones.drop (hechas (S.workers c))

/-- The same Master, if its Workers were done with an assignment once they have sent its end. -/
def Vista (S : Sistema) (m : Master) : Prop := ∃ I, m = conBuzones S.master (restantes S) I

theorem restantes_otra {e : WorkerInterprete.Evento} {o : Nat} (otra : o ≠ c) :
    restantes (ejecutar archivos tamanioPagina S c e) o = restantes S o := by
  rw [restantes, ejecutar_workers, ejecutar_master, Function.update_of_ne otra, entregar,
    conexiones_ajena otra]
  rfl

variable (archivos tamanioPagina) in
theorem restantes_ejecutar (e : WorkerInterprete.Evento) :
    let w' := WorkerInterprete.paso (archivos c) tamanioPagina (S.workers c) e
    restantes (ejecutar archivos tamanioPagina S c e) c =
      (if w'.cerradas.length = (S.workers c).cerradas.length then
        (S.master.conexiones c).asignaciones
      else (S.master.conexiones c).asignaciones.tail).drop (hechas w') := by
  dsimp only
  rw [restantes, ejecutar_workers, ejecutar_master, Function.update_self, entregar]
  simp only [Master.enConexion, Function.update_self]
  rfl

variable {m : Master}

theorem vista_callada {e : WorkerInterprete.Evento} (vista : Vista S m)
    (calla : (WorkerInterprete.paso (archivos c) tamanioPagina (S.workers c) e).salida = [])
    (mismas : restantes (ejecutar archivos tamanioPagina S c e) c = restantes S c) :
    Vista (ejecutar archivos tamanioPagina S c e) m := by
  obtain ⟨I, rfl⟩ := vista
  refine ⟨I, ?_⟩
  have resto : restantes (ejecutar archivos tamanioPagina S c e) = restantes S := by
    funext o
    by_cases otra : o = c
    · rw [otra, mismas]
    · exact restantes_otra otra
  rw [resto, ejecutar_master]
  simp only [entregar, calla, List.append_nil, conBuzones, Master.enConexion, Master.mk.injEq,
    true_and, and_true]
  funext o
  by_cases otra : o = c
  · subst otra
    simp
  · simp [otra]

theorem vista_informa {e : WorkerInterprete.Evento} {x : Paquete} (vista : Vista S m)
    (envia : (WorkerInterprete.paso (archivos c) tamanioPagina (S.workers c) e).salida = [x])
    (quedan : restantes (ejecutar archivos tamanioPagina S c e) c =
      if x.terminaAsignacion then (restantes S c).tail else restantes S c) :
    Vista (ejecutar archivos tamanioPagina S c e) (reportar m c x) := by
  obtain ⟨I, rfl⟩ := vista
  refine ⟨I, ?_⟩
  have resto : restantes (ejecutar archivos tamanioPagina S c e) = Function.update (restantes S) c
      (if x.terminaAsignacion then (restantes S c).tail else restantes S c) := by
    funext o
    by_cases otra : o = c
    · subst otra
      rw [quedan, Function.update_self]
    · rw [Function.update_of_ne otra, restantes_otra otra]
  rw [reportar_buzones, resto, ejecutar_master]
  simp only [entregar, envia, conBuzones, Master.enConexion, Master.mk.injEq, true_and, and_true]
  funext o
  by_cases otra : o = c
  · subst otra
    simp
  · simp [otra]

theorem informa_of_vista {x : Paquete} (vista : Vista S m)
    (suya : SistemaInterrupciones.actual (S.master.conexiones c) = some q)
    (ninguna : hechas (S.workers c) = 0) (informe : Lectura q x ∨ Cierre q x) : Informa m c x := by
  obtain ⟨I, rfl⟩ := vista
  obtain ⟨a, resto, lista, deQ⟩ := asignaciones_of_actual suya
  refine ⟨a, resto, q, ?_, deQ, informe⟩
  change restantes S c = a :: resto
  rw [restantes, ninguna, lista]
  rfl

variable (config) in
def Acompana (m : Master) (fs : List MasterHilos.Evento) (S' : Sistema) : Prop :=
  Along (MasterHilos.paso config) (fun s e => Previsto s e ∧ seguro s e = true) m fs ∧
    Vista S' (correr config m fs)

variable (archivos tamanioPagina) in
def informes (S : Sistema) (c : Nat) (e : WorkerInterprete.Evento) : List MasterHilos.Evento :=
  (WorkerInterprete.paso (archivos c) tamanioPagina (S.workers c) e).salida.map (.reporta c)

theorem ejecutar_acompana (cumple : Cumple S c) (vista : Vista S m) {e : WorkerInterprete.Evento}
    (tomada : ∀ q path pc, e = .asignacion q path pc →
      SistemaInterrupciones.actual (S.master.conexiones c) = some q)
    (guarda : desenlaceDoble (S.workers c) e = false) :
    Acompana config m (informes archivos tamanioPagina S c e)
      (ejecutar archivos tamanioPagina S c e) := by
  have efecto := paso_efecto (archivos c) tamanioPagina (S.workers c) e
  have uno := (unDesenlace_paso efecto cumple.coherente cumple.uno).mpr guarda
  have queda := restantes_ejecutar archivos tamanioPagina (S := S) (c := c) e
  dsimp only at queda
  have callada (calla : (WorkerInterprete.paso (archivos c) tamanioPagina (S.workers c)
        e).salida = [])
      (mismas : restantes (ejecutar archivos tamanioPagina S c e) c = restantes S c) :
      Acompana config m (informes archivos tamanioPagina S c e)
        (ejecutar archivos tamanioPagina S c e) := by
    rw [informes, calla]
    exact ⟨trivial, vista_callada vista calla mismas⟩
  have informa {q : Int} {x : Paquete} (envia : (WorkerInterprete.paso (archivos c) tamanioPagina
        (S.workers c) e).salida = [x])
      (suya : SistemaInterrupciones.actual (S.master.conexiones c) = some q)
      (ninguna : hechas (S.workers c) = 0) (informe : Lectura q x ∨ Cierre q x)
      (quedan : restantes (ejecutar archivos tamanioPagina S c e) c =
        if x.terminaAsignacion then (restantes S c).tail else restantes S c) :
      Acompana config m (informes archivos tamanioPagina S c e)
        (ejecutar archivos tamanioPagina S c e) := by
    rw [informes, envia]
    have previsto := informa_of_vista vista suya ninguna informe
    exact ⟨⟨⟨.inr ⟨c, x, rfl, previsto⟩, rfl⟩, trivial⟩, vista_informa vista envia quedan⟩
  cases paso_envia (archivos c) tamanioPagina (S.workers c) e cumple.acceso cumple.presente with
  | nada salida mismos cerradas =>
    refine callada (salida.trans cumple.salida) ?_
    rw [queda, if_pos (congrArg List.length cerradas), restantes, hechas, mismos, ← hechas]
  | lee q x antes lectura limpio salida mismos cerradas =>
    have cero := hechas_of_limpio cumple.coherente limpio
    refine informa (by rw [salida, cumple.salida]; rfl) (cumple.actual q antes) cero
      (.inl lectura) ?_
    obtain ⟨p, contenido, pc, rfl⟩ := lectura
    rw [queda, if_pos (congrArg List.length cerradas), readResult_continues, restantes, hechas,
      mismos, ← hechas]
    rfl
  | falla q x antes cierre salida mas cerradas =>
    have vacio : desenlaces (S.workers c).enviados = [] := by
      have una := uno.2
      rw [mas, List.length_append, List.length_singleton] at una
      exact List.length_eq_zero_iff.mp (by omega)
    have cero : hechas (S.workers c) = 0 := if_pos vacio
    refine informa (by rw [salida, cumple.salida]; rfl) (cumple.actual q antes) cero
      (.inr cierre) ?_
    rw [queda, if_pos (congrArg List.length cerradas), desenlace_terminaAsignacion cierre.1,
      restantes, cero, hechas, mas, vacio]
    simp
  | termina q x antes cierre salida enviados cerradas =>
    have vacio : desenlaces (S.workers c).enviados = [] :=
      (unDesenlace_snoc cierre.1).mp (uno.1 (q, (S.workers c).enviados ++ [x]) (by simp [cerradas]))
    have cero : hechas (S.workers c) = 0 := if_pos vacio
    have suya : SistemaInterrupciones.actual (S.master.conexiones c) = some q := by
      rcases antes with ocupado | ⟨path, pc, toma, _⟩
      · exact cumple.actual q ocupado
      · exact tomada q path pc toma
    refine informa (by rw [salida, cumple.salida]; rfl) suya cero (.inr cierre) ?_
    rw [queda, if_neg (by simp [cerradas]), desenlace_terminaAsignacion cierre.1, restantes, cero,
      hechas, enviados]
    simp [desenlaces]
  | limpia q antes estaba salida enviados cerradas =>
    have una := hechas_of_error cumple.coherente antes estaba
    refine callada (salida.trans cumple.salida) ?_
    rw [queda, if_neg (by simp [cerradas]), restantes, una, hechas, enviados]
    simp [desenlaces]

theorem cumple_avanza {S' : Sistema} (cumple : Cumple S c)
    (avanza : Avanza (S.master.conexiones c) (S'.master.conexiones c))
    (avisos : ∀ i ∈ (S'.master.conexiones c).interrupciones,
      i ∈ (S.master.conexiones c).interrupciones ∨ i.1 = .workerDesalojo)
    {avisada hay : Bool} (worker : S'.workers c =
      { S.workers c with avisada := avisada, hayInterrupcion := hay }) : Cumple S' c := by
  constructor
  · rw [worker]
    exact cumple.salida
  · rw [worker]
    exact fun q hq => actual_avanza avanza (cumple.actual q hq)
  · rw [worker]
    exact cumple.uno
  · rw [worker]
    exact ⟨cumple.coherente.libre, cumple.coherente.ids, cumple.coherente.flag⟩
  · rw [worker]
    exact cumple.acceso
  · rw [worker]
    exact cumple.presente
  · exact fun i hi => (avisos i hi).elim (cumple.desalojos i) id

theorem cumple_otra (cumple : Cumple S c) {e : WorkerInterprete.Evento} {o : Nat} (otra : c ≠ o) :
    Cumple (ejecutar archivos tamanioPagina S o e) c := by
  have worker : (ejecutar archivos tamanioPagina S o e).workers c =
      { S.workers c with
        avisada := (S.workers c).avisada
        hayInterrupcion := (S.workers c).hayInterrupcion } := by
    rw [ejecutar_workers, Function.update_of_ne otra]
  have conexion : (ejecutar archivos tamanioPagina S o e).master.conexiones c =
      S.master.conexiones c := by
    rw [ejecutar_master, entregar, conexiones_ajena otra]
  refine cumple_avanza cumple ?_ (fun i hi => .inl ?_) worker
  · rw [conexion]
    exact avanza_refl _
  · rwa [conexion] at hi

theorem concuerda_banderas {S' : Sistema} (cumplen : ∀ c, Cumple S c) (vista : Vista S m)
    (workers : ∀ o, ∃ avisada hay, S'.workers o =
      { S.workers o with avisada := avisada, hayInterrupcion := hay })
    (master : S'.master = S.master ∨ ∃ c i resto,
      (S.master.conexiones c).interrupciones = i :: resto ∧
        S'.master = S.master.enConexion c fun con => { con with interrupciones := resto }) :
    Vista S' m ∧ ∀ o, Cumple S' o := by
  have conexion (o : Nat) : Avanza (S.master.conexiones o) (S'.master.conexiones o) ∧
      (S'.master.conexiones o).asignaciones = (S.master.conexiones o).asignaciones ∧
      (S'.master.conexiones o).interrupciones ⊆ (S.master.conexiones o).interrupciones := by
    rcases master with same | ⟨c, i, resto, pendientes, same⟩
    · rw [same]
      exact ⟨avanza_refl _, rfl, List.Subset.refl _⟩
    · rw [same]
      refine ⟨.enConexion (avanza_refl _) c fun _ => ⟨rfl, List.prefix_rfl⟩, ?_⟩
      by_cases otra : o = c
      · subst otra
        simp [Master.enConexion, pendientes]
      · rw [conexiones_ajena otra]
        exact ⟨rfl, List.Subset.refl _⟩
  constructor
  · obtain ⟨I, rfl⟩ := vista
    refine ⟨I, ?_⟩
    have quedan : restantes S' = restantes S := by
      funext o
      obtain ⟨avisada, hay, same⟩ := workers o
      rw [restantes, (conexion o).2.1, same]
      rfl
    rw [quedan]
    rcases master with same | ⟨c, i, resto, _, same⟩
    · rw [same]
    · rw [same]
      exact (conBuzones_avisos c resto).symm
  · intro o
    obtain ⟨avisada, hay, same⟩ := workers o
    exact cumple_avanza (cumplen o) (conexion o).1 (fun i hi => .inl ((conexion o).2.2 hi)) same

variable (archivos tamanioPagina) in
theorem interrumpir_concuerda (cumplen : ∀ c, Cumple S c) (vista : Vista S m) (c : Nat) :
    Vista (interrumpir archivos tamanioPagina S c) m ∧
      ∀ o, Cumple (interrumpir archivos tamanioPagina S c) o := by
  have igual : Vista S m ∧ ∀ o, Cumple S o := ⟨vista, cumplen⟩
  unfold interrumpir
  split
  · exact igual
  · next codigo q resto pendientes =>
    split
    · exact igual
    · next noAvisada =>
      refine concuerda_banderas cumplen vista (fun o => ?_)
        (.inr ⟨c, (codigo, q), resto, pendientes, rfl⟩)
      by_cases otra : o = c
      · subst otra
        have desalojo : codigo = .workerDesalojo :=
          (cumplen o).desalojos (codigo, q) (by simp [pendientes])
        refine ⟨true, (S.workers o).hayInterrupcion, ?_⟩
        simp [WorkerInterprete.paso, noAvisada, desalojo, ← (cumplen o).presente]
      · exact ⟨(S.workers o).avisada, (S.workers o).hayInterrupcion, by simp [otra]⟩

variable (archivos tamanioPagina) in
theorem marcar_concuerda (cumplen : ∀ c, Cumple S c) (vista : Vista S m) (c : Nat) :
    Vista (marcar archivos tamanioPagina S c) m ∧
      ∀ o, Cumple (marcar archivos tamanioPagina S c) o := by
  unfold marcar
  split
  · next avisada =>
    refine concuerda_banderas cumplen vista (fun o => ?_) (.inl rfl)
    by_cases otra : o = c
    · subst otra
      exact ⟨false, true, by simp [WorkerInterprete.paso, avisada]⟩
    · exact ⟨(S.workers o).avisada, (S.workers o).hayInterrupcion, by simp [otra]⟩
  · exact ⟨vista, cumplen⟩

theorem pasoMaster_otro {e : MasterHilos.Evento} (noConecta : ∀ id, e ≠ .conectaWorker id)
    (noInforma : ∀ c m, e ≠ .reporta c m) :
    pasoMaster config S e = { S with master := MasterHilos.paso config S.master e } := by
  cases e with
  | conectaWorker id => exact (noConecta id rfl).elim
  | reporta c m => exact (noInforma c m rfl).elim
  | _ => rfl

theorem cumple_master (cumple : Cumple S c) {e : MasterHilos.Evento}
    (noConecta : ∀ id, e ≠ .conectaWorker id) (noInforma : ∀ c m, e ≠ .reporta c m)
    (avisos : ∀ i ∈ ((MasterHilos.paso config S.master e).conexiones c).interrupciones,
      i ∈ (S.master.conexiones c).interrupciones ∨ i.1 = .workerDesalojo) :
    Cumple { S with master := MasterHilos.paso config S.master e } c := by
  refine cumple_avanza cumple ?_ avisos rfl
  exact paso_avanza (fun id same => (noConecta id same).elim) noInforma

theorem conecta_concuerda (cumplen : ∀ c, Cumple S c) (vista : Vista S m) (id : Int) :
    Vista (pasoMaster config S (.conectaWorker id)) (conectarWorker m id) ∧
      ∀ c, Cumple (pasoMaster config S (.conectaWorker id)) c := by
  constructor
  · obtain ⟨I, rfl⟩ := vista
    have quedan : restantes (pasoMaster config S (.conectaWorker id)) =
        Function.update (restantes S) S.master.cantidadConexiones [] := by
      funext c
      by_cases nueva : c = S.master.cantidadConexiones
      · subst nueva
        simp [restantes, pasoMaster, conectarWorker, Conexion.nueva]
      · simp [restantes, pasoMaster, conectarWorker, nueva]
    refine ⟨Function.update I S.master.cantidadConexiones [], ?_⟩
    rw [quedan]
    exact conectarWorker_buzones id
  · intro c
    by_cases nueva : c = S.master.cantidadConexiones
    · subst nueva
      apply cumple_nuevo
      · simp [pasoMaster]
      · simp [pasoMaster, conectarWorker, Conexion.nueva]
    · have worker : (pasoMaster config S (.conectaWorker id)).workers c =
          { S.workers c with
            avisada := (S.workers c).avisada
            hayInterrupcion := (S.workers c).hayInterrupcion } := by
        simp [pasoMaster, nueva]
      refine cumple_avanza (cumplen c) ?_ (fun i hi => .inl ?_) worker
      · simpa [pasoMaster, conectarWorker, nueva] using avanza_refl _
      · simpa [pasoMaster, conectarWorker, nueva] using hi

theorem asigna_concuerda (cumplen : ∀ c, Cumple S c) (vista : Vista S m) {idWorker : Int}
    (en : (S.master.conexiones c).despachador = .agregada idWorker q) :
    Vista (pasoMaster config S (.despacho c)) (despachar config m c) ∧
      ∀ o, Cumple (pasoMaster config S (.despacho c)) o := by
  constructor
  · obtain ⟨I, rfl⟩ := vista
    refine ⟨I, (asigna_buzones en).trans ?_⟩
    congr 1
    funext o
    simp only [restantes, pasoMaster, MasterHilos.paso, asigna_asignaciones en]
    by_cases otra : o = c
    · subst otra
      simp [List.drop_append_of_le_length (hechas_le (cumplen o))]
    · simp [otra, restantes]
  · intro o
    refine cumple_master (cumplen o) (by rintro _ ⟨⟩) (by rintro _ _ ⟨⟩) fun i hi => .inl ?_
    simp only [MasterHilos.paso, despachar, en] at hi
    by_cases otra : o = c
    · subst otra
      simpa [Master.enConexion] using hi
    · rwa [conexiones_ajena otra] at hi

theorem pasoMaster_concuerda (libro : Libro m) (cumplen : ∀ c, Cumple S c) (vista : Vista S m)
    {e : MasterHilos.Evento} (noInforma : ∀ c m, e ≠ .reporta c m) :
    Vista (pasoMaster config S e) (MasterHilos.paso config m e) ∧
      ∀ c, Cumple (pasoMaster config S e) c := by
  by_cases conecta : ∃ id, e = .conectaWorker id
  · obtain ⟨id, rfl⟩ := conecta
    exact conecta_concuerda cumplen vista id
  have noConecta : ∀ id, e ≠ .conectaWorker id := fun id same => conecta ⟨id, same⟩
  by_cases asigna : ∃ c idWorker q, e = .despacho c ∧
      (S.master.conexiones c).despachador = .agregada idWorker q
  · obtain ⟨c, idWorker, q, rfl, en⟩ := asigna
    exact asigna_concuerda cumplen vista en
  have sinDesalojo : ∀ q d, S.master.vigias q ≠ .desalojando d := by
    intro q d desaloja
    obtain ⟨I, rfl⟩ := vista
    have vigia : S.master.vigias q = .ninguno ∨ S.master.vigias q = .pendiente ∨
        S.master.vigias q = .fin := (libro.sinBajas q).2
    simp [desaloja] at vigia
  have ajena : Desatiende (fun s => MasterHilos.paso config s e) S.master :=
    paso_desatiende noConecta noInforma
      (fun c idWorker q same en => asigna ⟨c, idWorker, q, same, en⟩) sinDesalojo
  rw [pasoMaster_otro noConecta noInforma]
  constructor
  · obtain ⟨I, rfl⟩ := vista
    obtain ⟨I', same, _⟩ := ajena (restantes S) I
    refine ⟨I', same.trans ?_⟩
    congr 1
    funext c
    simp only [restantes]
    rw [desatiende_asignaciones ajena c]
  · intro c
    exact cumple_master (cumplen c) noConecta noInforma fun i hi =>
      desatiende_interrupciones ajena hi

/-- Workers come and go as the books of the Master need, and none ends an assignment twice. -/
def enRegla (S : Sistema) (e : Evento) : Bool :=
  match ejecucion S e, e with
  | some (c, e), _ => !desenlaceDoble (S.workers c) e
  | none, .master e => permitido S.master e && seguro S.master e
  | none, _ => true

variable (archivos tamanioPagina) in
def traduce (S : Sistema) (e : Evento) : List MasterHilos.Evento :=
  match ejecucion S e, e with
  | some (c, e), _ => informes archivos tamanioPagina S c e
  | none, .master e => [e]
  | none, _ => []

structure Concuerda (S : Sistema) (m : Master) : Prop where
  libro : Libro m
  vista : Vista S m
  cumplen : ∀ c, Cumple S c

theorem libro_along {fs : List MasterHilos.Evento} (libro : Libro m)
    (h : Along (MasterHilos.paso config) (fun s e => Previsto s e ∧ seguro s e = true) m fs) :
    Libro (correr config m fs) :=
  invariant_guarded_run Libro (fun _ _ inv guarda => libro_paso inv guarda.1 guarda.2) libro h

theorem concuerda_paso (e : Evento) (h : Concuerda S m) (guarda : enRegla S e = true) :
    Along (MasterHilos.paso config) (fun s e => Previsto s e ∧ seguro s e = true) m
        (traduce archivos tamanioPagina S e) ∧
      Concuerda (paso config archivos tamanioPagina S e)
        (correr config m (traduce archivos tamanioPagina S e)) := by
  unfold enRegla at guarda
  unfold traduce paso
  cases ejecuta : ejecucion S e with
  | some orden =>
    obtain ⟨c, e'⟩ := orden
    obtain ⟨otra, _, tomada⟩ := ejecucion_dice ejecuta
    have doble : desenlaceDoble (S.workers c) e' = false := by simpa [ejecuta] using guarda
    obtain ⟨along, vista⟩ := ejecutar_acompana (h.cumplen c) h.vista tomada doble
    refine ⟨along, libro_along h.libro along, vista, fun o => ?_⟩
    by_cases propia : o = c
    · subst propia
      exact cumple_ejecutar (h.cumplen o) otra tomada doble
    · exact cumple_otra (h.cumplen o) propia
  | none =>
    cases e with
    | master e =>
      simp only [ejecuta, Bool.and_eq_true] at guarda
      have noInforma : ∀ c m, e ≠ .reporta c m := by
        rintro c m rfl
        simp [permitido] at guarda
      obtain ⟨I, same⟩ := h.vista
      have previsto : Previsto m e ∧ seguro m e = true := by
        subst same
        constructor
        · refine .inl (Eq.trans ?_ guarda.1)
          cases e <;> rfl
        · refine Eq.trans ?_ guarda.2
          cases e <;> rfl
      obtain ⟨vista, cumplen⟩ := pasoMaster_concuerda h.libro h.cumplen h.vista noInforma
      exact ⟨⟨previsto, trivial⟩, libro_paso h.libro previsto.1 previsto.2, vista, cumplen⟩
    | interrumpe c =>
      obtain ⟨vista, cumplen⟩ := interrumpir_concuerda archivos tamanioPagina h.cumplen h.vista c
      exact ⟨trivial, h.libro, vista, cumplen⟩
    | marca c =>
      obtain ⟨vista, cumplen⟩ := marcar_concuerda archivos tamanioPagina h.cumplen h.vista c
      exact ⟨trivial, h.libro, vista, cumplen⟩
    | _ => exact ⟨trivial, h⟩

theorem concuerda_inicial : Concuerda inicial masterInicial := by
  refine ⟨libro_inicial, ⟨fun _ => [], ?_⟩, fun c => ?_⟩
  · have ninguna : restantes inicial = fun _ => [] := by
      funext c
      exact List.drop_nil
    rw [ninguna]
    rfl
  · exact cumple_nuevo rfl rfl

variable (config archivos tamanioPagina) in
def pasos (es : List Evento) : List MasterHilos.Evento :=
  moves (paso config archivos tamanioPagina) (traduce archivos tamanioPagina) inicial es

theorem red_acompana {es : List Evento}
    (h : Along (paso config archivos tamanioPagina) (fun S e => enRegla S e = true) inicial es) :
    Along (MasterHilos.paso config) (fun s e => Previsto s e ∧ seguro s e = true) masterInicial
        (pasos config archivos tamanioPagina es) ∧
      Concuerda (es.foldl (paso config archivos tamanioPagina) inicial)
        (correr config masterInicial (pasos config archivos tamanioPagina es)) :=
  simulated_run Concuerda (fun _ e _ concuerda guarda => concuerda_paso e concuerda guarda)
    concuerda_inicial h

/-- The query file "corta" is empty, any other one reads twice. -/
def dosLecturas (_ : Nat) (path : String) : Option (List Decode) :=
  if path = "corta" then some []
  else some [.ejecuta .read { nombreFile := "f", tag := "t", tamanio := 2 },
    .ejecuta .read { nombreFile := "f", tag := "t", tamanio := 2, direccionBase := 2 }]

def despachos (n : Nat) : List Evento := List.replicate n (.master (.despacho 0))

/-- Query 0 reads, query 1 takes its Worker, and query 0 is back for the second READ. -/
def desalojada : List Evento :=
  (SistemaInterrupciones.enMarcha "larga").map .master ++
    [.asigna 0, .avance 0, .pagina 0 (some "ho"), .master (.despacho 0),
      .master (.llega "corta" 1 0)] ++ List.replicate 4 (.master (.consulta 1)) ++
    [.interrumpe 0, .marca 0, .avance 0] ++ despachos 10 ++ [.asigna 0, .avance 0] ++
    despachos 8 ++ [.asigna 0, .avance 0, .pagina 0 (some "la"), .avance 0] ++ despachos 1 ++
    [.avance 0] ++ despachos 2

end SistemaContrato
