import MasterOfFiles.Worker.Interprete

/-!
What one step of a Worker does to the assignment it is on.
-/
namespace WorkerPasos
open Mensajes WorkerInformes WorkerInterprete

def Hilo.asignada : Hilo → Option Int
  | .esperando => none
  | .ciclo pcb => some pcb.queryId
  | .respuesta pcb _ _ _ => some pcb.queryId
  | .acceso pcb _ _ _ _ => some pcb.queryId
  | .chequeo pcb => some pcb.queryId

def asignada (w : Worker) : Option Int := Hilo.asignada w.hilo

def desenlaces (ms : List Paquete) : List Paquete := ms.filter Paquete.terminaAsignacion

/-- The step would send a second ending message: an error reply, or an interruption found by
    checkInterrupt, while error_storage is still up from an earlier error. -/
def desenlaceDoble (w : Worker) (e : Evento) : Bool :=
  w.errorStorage && match w.hilo, e with
    | .respuesta .., .respuesta ok => !ok
    | .acceso .., .pagina none => true
    | .chequeo _, .avance => w.hayInterrupcion
    | _, _ => false

def interrumpida (w : Worker) (e : Evento) : Option Int :=
  match w.hilo, e with
  | .chequeo pcb, .avance => if w.hayInterrupcion then some pcb.queryId else none
  | _, _ => none

/-- The step leaves the assignment for another reason. -/
def deja (archivos : String → Option (List Decode)) (w : Worker) (e : Evento) : Bool :=
  match w.hilo, e with
  | .ciclo pcb, .avance =>
    w.errorStorage || match (fetch pcb w.pc).1 with
      | .ejecuta _ _ => false
      | _ => true
  | .esperando, .asignacion _ path _ => (archivos path).isNone
  | _, _ => false

inductive Efecto (w : Worker) (e : Evento) (w' : Worker) : Prop
  /-- Nothing that ends the assignment is sent and error_storage stays. -/
  | sigue (query : asignada w' = asignada w)
      (mismos : desenlaces w'.enviados = desenlaces w.enviados)
      (cerradas : w'.cerradas = w.cerradas) (flag : w'.errorStorage = w.errorStorage)
      (doble : desenlaceDoble w e = false)
  | recibe (queryId : Int) (libre : w.hilo = .esperando) (query : asignada w' = some queryId)
      (mismos : w'.enviados = w.enviados) (cerradas : w'.cerradas = w.cerradas)
      (flag : w'.errorStorage = w.errorStorage) (doble : desenlaceDoble w e = false)
      (suya : ∃ path pc, e = .asignacion queryId path pc)
  /-- An error is reported and error_storage goes up. -/
  | falla (queryId : Int) (m : Paquete) (antes : asignada w = some queryId)
      (query : asignada w' = some queryId) (desenlace : Desenlace queryId m)
      (envia : w'.enviados = w.enviados ++ [m]) (cerradas : w'.cerradas = w.cerradas)
      (flag : w'.errorStorage = true) (doble : desenlaceDoble w e = w.errorStorage)
  /-- The assignment is left with a message. -/
  | termina (queryId : Int) (m : Paquete)
      (antes : asignada w = some queryId ∨ w.hilo = .esperando)
      (libre : w'.hilo = .esperando) (desenlace : Desenlace queryId m)
      (cerradas : w'.cerradas = w.cerradas ++ [(queryId, w.enviados ++ [m])])
      (enviados : w'.enviados = []) (flag : w'.errorStorage = w.errorStorage)
      (doble : w.hilo ≠ .esperando → desenlaceDoble w e = w.errorStorage)
      (espera : w.hilo = .esperando → desenlaceDoble w e = false)
  /-- The assignment is left because error_storage is up, with no further message. -/
  | limpia (queryId : Int) (antes : asignada w = some queryId) (libre : w'.hilo = .esperando)
      (cerradas : w'.cerradas = w.cerradas ++ [(queryId, w.enviados)])
      (enviados : w'.enviados = []) (estaba : w.errorStorage = true)
      (flag : w'.errorStorage = false) (doble : desenlaceDoble w e = false)

theorem informe_desenlace (p : Parametros) (queryId : Int) (pedido : PedidoStorage) :
    ∃ m, informeDeRespuesta p queryId (pedido.codigoRespuesta false) = some m ∧
      Desenlace queryId m := by
  cases pedido with
  | createFile => exact ⟨_, rfl, .create p⟩
  | truncate => exact ⟨_, rfl, .truncate p⟩
  | tag => exact ⟨_, rfl, .tag p⟩
  | commit => exact ⟨_, rfl, .commit p⟩
  | delete => exact ⟨_, rfl, .delete p⟩
  | flush => exact ⟨_, rfl, .flush⟩

theorem informe_ok (p : Parametros) (queryId : Int) (pedido : PedidoStorage) :
    informeDeRespuesta p queryId (pedido.codigoRespuesta true) = none := by
  cases pedido <;> rfl

theorem execute_asignada (tamanioPagina : Nat) (pcb : Pcb) (p : Parametros) (i : Instruccion) :
    Hilo.asignada (execute tamanioPagina pcb p i) = some pcb.queryId := by
  cases i with
  | write | read =>
    simp only [execute, accederMemoria]
    split <;> rfl
  | _ => rfl

variable {w : Worker} {pcb : Pcb}

theorem ciclo_efecto (tamanioPagina : Nat) (h : w.hilo = .ciclo pcb) :
    Efecto w .avance (queryInterpreterCiclo tamanioPagina w pcb) := by
  have antes : asignada w = some pcb.queryId := by simp [asignada, h, Hilo.asignada]
  have doble : desenlaceDoble w .avance = false := by simp [desenlaceDoble, h]
  have ocupado : w.hilo ≠ .esperando := by simp [h]
  unfold queryInterpreterCiclo
  cases flag : w.errorStorage with
  | true => exact .limpia pcb.queryId antes rfl rfl rfl flag rfl doble
  | false =>
    cases linea : fetch pcb w.pc with
    | mk l resto =>
      cases l with
      | fin =>
        exact .termina pcb.queryId _ (.inl antes) rfl .fin rfl rfl flag.symm
          (fun _ => doble.trans flag.symm) (fun libre => (ocupado libre).elim)
      | malformada instruccion =>
        exact .termina pcb.queryId _ (.inl antes) rfl (.malformada instruccion) rfl rfl flag.symm
          (fun _ => doble.trans flag.symm) (fun libre => (ocupado libre).elim)
      | ejecuta i p =>
        exact .sigue ((execute_asignada ..).trans antes.symm) rfl rfl flag.symm doble

theorem checkInterrupt_efecto (h : w.hilo = .chequeo pcb) :
    Efecto w .avance (checkInterrupt w pcb) := by
  have antes : asignada w = some pcb.queryId := by simp [asignada, h, Hilo.asignada]
  have doble : desenlaceDoble w .avance = (w.errorStorage && w.hayInterrupcion) := by
    simp [desenlaceDoble, h]
  unfold checkInterrupt
  cases hay : w.hayInterrupcion with
  | true =>
    exact .termina pcb.queryId _ (.inl antes) rfl (.interrupcion ..) rfl rfl rfl
      (fun _ => by simp [doble, hay]) (fun libre => by simp [h] at libre)
  | false => exact .sigue antes.symm rfl rfl rfl (by simp [doble, hay])

theorem leerRespuesta_efecto {p : Parametros} {pedido : PedidoStorage}
    {despues : List PedidoStorage} (h : w.hilo = .respuesta pcb p pedido despues) (ok : Bool) :
    Efecto w (.respuesta ok) (leerRespuesta w pcb p pedido despues ok) := by
  have antes : asignada w = some pcb.queryId := by simp [asignada, h, Hilo.asignada]
  have doble : desenlaceDoble w (.respuesta ok) = (w.errorStorage && !ok) := by
    simp [desenlaceDoble, h]
  unfold leerRespuesta rtasStorage
  cases ok with
  | true =>
    rw [informe_ok]
    cases despues with
    | nil => exact .sigue antes.symm rfl rfl rfl (by simp [doble])
    | cons siguiente resto => exact .sigue antes.symm rfl rfl rfl (by simp [doble])
  | false =>
    obtain ⟨m, informe, desenlace⟩ := informe_desenlace p pcb.queryId pedido
    rw [informe]
    cases despues with
    | nil => exact .falla pcb.queryId m antes rfl desenlace rfl rfl rfl (by simp [doble])
    | cons siguiente resto =>
      exact .falla pcb.queryId m antes rfl desenlace rfl rfl rfl (by simp [doble])

theorem accesoAPagina_efecto {p : Parametros} {esEscritura : Bool} {paginas : Nat}
    {leido : String} (h : w.hilo = .acceso pcb p esEscritura paginas leido)
    (contenido : Option String) :
    Efecto w (.pagina contenido)
      (accesoAPagina w pcb p esEscritura paginas leido contenido) := by
  have antes : asignada w = some pcb.queryId := by simp [asignada, h, Hilo.asignada]
  cases contenido with
  | none =>
    have doble : desenlaceDoble w (.pagina none) = w.errorStorage := by
      simp [desenlaceDoble, h]
    cases esEscritura with
    | true => exact .falla pcb.queryId _ antes rfl (.tamanioEscritura ..) rfl rfl rfl doble
    | false => exact .falla pcb.queryId _ antes rfl (.tamanioLectura ..) rfl rfl rfl doble
  | some contenido =>
    have doble : desenlaceDoble w (.pagina (some contenido)) = false := by
      simp [desenlaceDoble, h]
    unfold accesoAPagina
    dsimp only
    split
    · exact .sigue antes.symm rfl rfl rfl doble
    · cases esEscritura with
      | true => exact .sigue antes.symm rfl rfl rfl doble
      | false =>
        have mismos : desenlaces (w.enviados ++ [readResult p pcb.queryId (leido ++ contenido)
            w.pc]) = desenlaces w.enviados := by
          simp [desenlaces, readResult_continues]
        exact .sigue antes.symm mismos rfl rfl doble

theorem paso_efecto (archivos : String → Option (List Decode)) (tamanioPagina : Nat)
    (w : Worker) (e : Evento) : Efecto w e (paso archivos tamanioPagina w e) := by
  have quieto : desenlaceDoble w e = false → Efecto w e w := .sigue rfl rfl rfl rfl
  cases e with
  | asignacion queryId path pc =>
    have doble : desenlaceDoble w (.asignacion queryId path pc) = false := by
      simp [desenlaceDoble]
    cases libre : w.hilo with
    | esperando =>
      cases abierto : archivos path with
      | none =>
        simp only [paso, libre, abierto]
        exact .termina queryId _ (.inr libre) rfl (.noEncontrada path) rfl rfl rfl
          (fun ocupado => (ocupado libre).elim) (fun _ => doble)
      | some lineas =>
        simp only [paso, libre, abierto]
        exact .recibe queryId libre rfl rfl rfl rfl doble ⟨path, pc, rfl⟩
    | _ => simpa only [paso, libre] using quieto doble
  | avance =>
    cases h : w.hilo with
    | ciclo pcb => simpa only [paso, h] using ciclo_efecto tamanioPagina h
    | chequeo pcb => simpa only [paso, h] using checkInterrupt_efecto h
    | _ => simpa only [paso, h] using quieto (by simp [desenlaceDoble, h])
  | respuesta ok =>
    cases h : w.hilo with
    | respuesta pcb p pedido despues => simpa only [paso, h] using leerRespuesta_efecto h ok
    | _ => simpa only [paso, h] using quieto (by simp [desenlaceDoble, h])
  | pagina contenido =>
    cases h : w.hilo with
    | acceso pcb p esEscritura paginas leido =>
      simpa only [paso, h] using accesoAPagina_efecto h contenido
    | _ => simpa only [paso, h] using quieto (by simp [desenlaceDoble, h])
  | interrupcion desconectado =>
    have doble : desenlaceDoble w (.interrupcion desconectado) = false := by
      simp [desenlaceDoble]
    simp only [paso]
    split
    · exact quieto doble
    · exact .sigue rfl rfl rfl rfl doble
  | marca =>
    have doble : desenlaceDoble w .marca = false := by simp [desenlaceDoble]
    simp only [paso]
    split
    · exact .sigue rfl rfl rfl rfl doble
    · exact quieto doble

theorem asignada_of_interrumpida {e : Evento} {q : Int} (h : interrumpida w e = some q) :
    asignada w = some q := by
  unfold interrumpida at h
  split at h
  · next pcb hilo =>
    split at h
    · simpa [asignada, hilo, Hilo.asignada] using h
    · contradiction
  · contradiction

theorem interrumpida_libre (archivos : String → Option (List Decode)) (tamanioPagina : Nat)
    {e : Evento} {q : Int} (h : interrumpida w e = some q) :
    asignada (paso archivos tamanioPagina w e) = none := by
  unfold interrumpida at h
  split at h
  · next pcb hilo =>
    cases hay : w.hayInterrupcion with
    | true => simp [paso, hilo, checkInterrupt, hay, Worker.dejar, asignada, Hilo.asignada]
    | false => simp [hay] at h
  · contradiction

def aparte (w : Worker) : List (Int × List Paquete) × Bool × Bool :=
  (w.cerradas, w.avisada, w.hayInterrupcion)

theorem leerRespuesta_aparte (w : Worker) (pcb : Pcb) (p : Parametros) (pedido : PedidoStorage)
    (despues : List PedidoStorage) (ok : Bool) :
    aparte (leerRespuesta w pcb p pedido despues ok) = aparte w := by
  have igual : aparte (rtasStorage w p pcb.queryId (pedido.codigoRespuesta ok)) = aparte w := by
    unfold rtasStorage
    split <;> rfl
  unfold leerRespuesta
  cases despues <;> exact igual

theorem accesoAPagina_aparte (w : Worker) (pcb : Pcb) (p : Parametros) (esEscritura : Bool)
    (paginas : Nat) (leido : String) (contenido : Option String) :
    aparte (accesoAPagina w pcb p esEscritura paginas leido contenido) = aparte w := by
  unfold accesoAPagina
  cases contenido with
  | none => rfl
  | some contenido =>
    dsimp only
    split
    · rfl
    · split <;> rfl

theorem respuesta_aparte (archivos : String → Option (List Decode)) (tamanioPagina : Nat)
    (ok : Bool) : aparte (paso archivos tamanioPagina w (.respuesta ok)) = aparte w := by
  cases h : w.hilo with
  | respuesta => simpa only [paso, h] using leerRespuesta_aparte ..
  | _ => simp only [paso, h]

theorem pagina_aparte (archivos : String → Option (List Decode)) (tamanioPagina : Nat)
    (contenido : Option String) :
    aparte (paso archivos tamanioPagina w (.pagina contenido)) = aparte w := by
  cases h : w.hilo with
  | acceso => simpa only [paso, h] using accesoAPagina_aparte ..
  | _ => simp only [paso, h]

theorem cerradas_mismas (archivos : String → Option (List Decode)) (tamanioPagina : Nat)
    {e : Evento} (sigue : deja archivos w e = false) (libre : interrumpida w e = none) :
    (paso archivos tamanioPagina w e).cerradas = w.cerradas := by
  cases e with
  | asignacion queryId path pc =>
    cases h : w.hilo with
    | esperando =>
      cases abierto : archivos path with
      | none => simp [deja, h, abierto] at sigue
      | some lineas => simp only [paso, h, abierto]
    | _ => simp only [paso, h]
  | avance =>
    cases h : w.hilo with
    | ciclo pcb =>
      simp only [deja, h, Bool.or_eq_false_iff] at sigue
      simp only [paso, h, queryInterpreterCiclo, sigue.1, Bool.false_eq_true, if_false]
      cases linea : (fetch pcb w.pc).1 with
      | ejecuta i p => rfl
      | _ => simp [linea] at sigue
    | chequeo pcb =>
      have abajo : w.hayInterrupcion = false := by simpa [interrumpida, h] using libre
      simp [paso, h, checkInterrupt, abajo]
    | _ => simp only [paso, h]
  | respuesta ok => exact congrArg Prod.fst (respuesta_aparte archivos tamanioPagina ok)
  | pagina contenido => exact congrArg Prod.fst (pagina_aparte archivos tamanioPagina contenido)
  | interrupcion | marca =>
    simp only [paso]
    split <;> rfl

theorem asignada_none : asignada w = none ↔ w.hilo = .esperando := by
  cases h : w.hilo <;> simp [asignada, h, Hilo.asignada]

theorem asignada_paso (archivos : String → Option (List Decode)) (tamanioPagina : Nat)
    (w : Worker) (e : Evento) :
    let w' := paso archivos tamanioPagina w e
    w'.cerradas.length = w.cerradas.length ∧ (asignada w' = asignada w ∨
      ∃ q path pc, e = .asignacion q path pc ∧ asignada w' = some q) ∨
    w'.cerradas.length ≠ w.cerradas.length ∧ asignada w' = none := by
  cases paso_efecto archivos tamanioPagina w e with
  | sigue query mismos cerradas flag doble => exact .inl ⟨congrArg _ cerradas, .inl query⟩
  | recibe q libre query mismos cerradas flag doble suya =>
    obtain ⟨path, pc, same⟩ := suya
    exact .inl ⟨congrArg _ cerradas, .inr ⟨q, path, pc, same, query⟩⟩
  | falla q m antes query desenlace envia cerradas flag doble =>
    exact .inl ⟨congrArg _ cerradas, .inl (query.trans antes.symm)⟩
  | termina q m antes libre desenlace cerradas enviados flag doble espera =>
    exact .inr ⟨by simp [cerradas], asignada_none.mpr libre⟩
  | limpia q antes libre cerradas enviados estaba flag doble =>
    exact .inr ⟨by simp [cerradas], asignada_none.mpr libre⟩

theorem flags_paso (archivos : String → Option (List Decode)) (tamanioPagina : Nat) {e : Evento}
    (otra : ∀ desconectado, e ≠ .interrupcion desconectado) (noMarca : e ≠ .marca) :
    (paso archivos tamanioPagina w e).avisada = w.avisada ∧
    (paso archivos tamanioPagina w e).hayInterrupcion =
      (w.hayInterrupcion && (interrumpida w e).isNone) := by
  have quieto {w' : Worker} (same : aparte w' = aparte w) (libre : interrumpida w e = none) :
      w'.avisada = w.avisada ∧
        w'.hayInterrupcion = (w.hayInterrupcion && (interrumpida w e).isNone) := by
    simp only [aparte, Prod.mk.injEq] at same
    simp [same.2.1, same.2.2, libre]
  cases e with
  | asignacion queryId path pc =>
    have libre : interrumpida w (.asignacion queryId path pc) = none := by simp [interrumpida]
    cases h : w.hilo with
    | esperando =>
      simp only [paso, h]
      split <;> simp [Worker.dejar, Worker.enviar, libre]
    | _ => simp [paso, h, libre]
  | avance =>
    cases h : w.hilo with
    | ciclo pcb =>
      have libre : interrumpida w .avance = none := by simp [interrumpida, h]
      simp only [paso, h, queryInterpreterCiclo]
      split
      · simp [Worker.dejar, libre]
      · cases (fetch pcb w.pc).1 <;> simp [Worker.dejar, Worker.enviar, libre]
    | chequeo pcb =>
      cases hay : w.hayInterrupcion <;>
        simp [paso, h, checkInterrupt, hay, interrumpida, Worker.dejar, Worker.enviar]
    | _ => simp [paso, h, interrumpida]
  | respuesta ok =>
    exact quieto (respuesta_aparte archivos tamanioPagina ok) (by simp [interrumpida])
  | pagina contenido =>
    exact quieto (pagina_aparte archivos tamanioPagina contenido) (by simp [interrumpida])
  | interrupcion desconectado => exact (otra desconectado rfl).elim
  | marca => exact (noMarca rfl).elim

theorem sigue_o_libre (archivos : String → Option (List Decode)) (tamanioPagina : Nat)
    {e : Evento} (otra : ∀ desconectado, e ≠ .interrupcion desconectado) (noMarca : e ≠ .marca)
    (guarda : w.hayInterrupcion = true → deja archivos w e = false) :
    let w' := paso archivos tamanioPagina w e
    w'.cerradas.length = w.cerradas.length ∧ interrumpida w e = none ∨
      asignada w' = none ∧ w'.hayInterrupcion = false := by
  have hay := (flags_paso archivos tamanioPagina (w := w) otra noMarca).2
  cases libre : interrumpida w e with
  | some q => exact .inr ⟨interrumpida_libre archivos tamanioPagina libre, by simp [hay, libre]⟩
  | none =>
    cases sale : deja archivos w e with
    | false => exact .inl ⟨congrArg _ (cerradas_mismas archivos tamanioPagina sale libre), rfl⟩
    | true =>
      have abajo : w.hayInterrupcion = false := by
        by_contra arriba
        simp [sale] at guarda
        exact arriba guarda
      rcases asignada_paso archivos tamanioPagina w e with ⟨mismas, _⟩ | ⟨_, fuera⟩
      · exact .inl ⟨mismas, rfl⟩
      · exact .inr ⟨fuera, by simp [hay, abajo]⟩

end WorkerPasos
