import MasterOfFiles.Worker.Consultas

/-!
A query that the Master takes from one Worker and gives to another. interrupt_envio_a_master
sends the program counter and nothing else: no page is flushed there, and a Worker keeps the
pages it has of a query that is resumed elsewhere.
-/
namespace SistemaDesalojos
open StorageEstado StorageArchivos StorageEscritura StoragePrimitivas StoragePedidos
open StorageVolcados GuardedRuns WriteBack
open WorkerMemoria WorkerPaginas WorkerReemplazo WorkerCoherencia WorkerAccesos WorkerRecorridos
open WorkerEjecucion WorkerConsultas
open WorkerAcuses (hayModificadas unMarco)
open WorkerVigentes (dosMarcos)

variable {Hash : Type}

/-- A memory for each Worker, one Storage, and the query: its program counter, the Worker it
    was assigned to last and what its READs returned. -/
structure Sistema (Hash : Type) where
  memorias : Nat → Memoria
  storage : Storage Hash
  rechazados : List (FileTag × List Pagina)
  pc : Nat
  worker : Nat
  leido : List (Option Bytes)

/-- The query executes an instruction, or is preempted and resumed on a Worker, or a Worker
    executes an instruction of another query. -/
inductive Evento where
  | avance
  | desalojo (worker : Nat)
  | otra (worker : Nat) (i : Instruccion)

def Sistema.nodo (S : Sistema Hash) (w : Nat) : Nodo (Storage Hash) :=
  ⟨S.memorias w, S.storage, S.rechazados⟩

def Sistema.conNodo (S : Sistema Hash) (w : Nat) (n : Nodo (Storage Hash)) : Sistema Hash :=
  { S with
    memorias := Function.update S.memorias w n.mem
    storage := n.storage
    rechazados := n.rechazados }

def archivosDe (consulta : List Instruccion) : List Archivo := consulta.flatMap archivos

section Corridas
variable [DecidableEq Hash] (sb : Superbloque) (md5 : Bytes → Hash) (cfgs : Nat → ConfigMemoria)
  (consulta : List Instruccion)

def paso (S : Sistema Hash) : Evento → Sistema Hash
  | .avance =>
    match consulta[S.pc]? with
    | none => S
    | some i =>
      { S.conNodo S.worker (ejecutar sb md5 (cfgs S.worker) (S.nodo S.worker) i) with
        pc := S.pc + 1
        leido := S.leido ++ lectura sb (cfgs S.worker) (S.nodo S.worker) i }
  | .desalojo w => { S with worker := w }
  | .otra w i => S.conNodo w (ejecutar sb md5 (cfgs w) (S.nodo w) i)

def inicial (cfgs : Nat → ConfigMemoria) (s : Storage Hash) (worker : Nat) : Sistema Hash :=
  ⟨fun w => crearMemoria (cfgs w), s, [], 0, worker, []⟩

def correr (s : Storage Hash) (worker : Nat) (plan : List Evento) : Sistema Hash :=
  plan.foldl (paso sb md5 cfgs consulta) (inicial cfgs s worker)

/-- No Storage errors, and no other query touches the File:Tags of this one. -/
def Admisible (S : Sistema Hash) : Evento → Prop
  | .avance => ∀ i ∈ consulta[S.pc]?, SinError sb md5 (cfgs S.worker) (S.nodo S.worker) i
  | .desalojo _ => True
  | .otra w i => SinError sb md5 (cfgs w) (S.nodo w) i ∧ ∀ f ∈ archivos i, f ∉ archivosDe consulta

instance (S : Sistema Hash) : ∀ e, Decidable (Admisible sb md5 cfgs consulta S e)
  | .avance => inferInstanceAs (Decidable (∀ i ∈ _, _))
  | .desalojo _ => inferInstanceAs (Decidable True)
  | .otra _ _ => inferInstanceAs (Decidable (_ ∧ ∀ f ∈ _, _))

/-- The pages of f that the memory has are what Storage has. -/
def Actuales (s : Storage Hash) (mem : Memoria) (f : Archivo) : Prop :=
  ∀ m ∈ mem.tablasPaginas (claveFileTag f), ∀ e ∈ mem.marcos m,
    leerBloque sb s f.val e.numeroPagina = some (mem.arena m)

instance (s : Storage Hash) (mem : Memoria) (f : Archivo) : Decidable (Actuales sb s mem f) :=
  inferInstanceAs (Decidable (∀ m ∈ _, ∀ e ∈ mem.marcos m, _))

/-- Where the query changes Workers, the one it leaves has no page of it modified and the one
    it comes to has no old page of it. -/
def Relevo (S : Sistema Hash) (w : Nat) : Prop :=
  w ≠ S.worker → ∀ f ∈ archivosDe consulta,
    hayModificadas (S.memorias S.worker) f = false ∧ Actuales sb S.storage (S.memorias w) f

instance (S : Sistema Hash) (w : Nat) : Decidable (Relevo sb consulta S w) :=
  inferInstanceAs (Decidable (_ → ∀ f ∈ _, _ ∧ _))

def Unida (cfg : ConfigMemoria) (n : Nodo (Storage Hash)) (i : Instruccion) : Prop :=
  CommitConsistente sb md5 cfg n i ∧ Fiable sb md5 cfg n i

instance (cfg : ConfigMemoria) (n : Nodo (Storage Hash)) (i : Instruccion) :
    Decidable (Unida sb md5 cfg n i) := inferInstanceAs (Decidable (_ ∧ _))

def Cuidado (S : Sistema Hash) : Evento → Prop
  | .avance => ∀ i ∈ consulta[S.pc]?, Unida sb md5 (cfgs S.worker) (S.nodo S.worker) i
  | .desalojo w => Relevo sb consulta S w
  | .otra w i => CommitConsistente sb md5 (cfgs w) (S.nodo w) i

instance (S : Sistema Hash) : ∀ e, Decidable (Cuidado sb md5 cfgs consulta S e)
  | .avance => inferInstanceAs (Decidable (∀ i ∈ _, _))
  | .desalojo _ => inferInstanceAs (Decidable (Relevo _ _ _ _))
  | .otra _ _ => inferInstanceAs (Decidable (CommitConsistente _ _ _ _ _))

/-- The READs returned what they return without preemption on one Worker. -/
def ComoSinDesalojos (cfg : ConfigMemoria) (s : Storage Hash) (S : Sistema Hash) : Prop :=
  S.leido = lecturas sb md5 cfg ⟨crearMemoria cfg, s, []⟩ (consulta.take S.pc)

instance (cfg : ConfigMemoria) (s : Storage Hash) (S : Sistema Hash) :
    Decidable (ComoSinDesalojos sb md5 consulta cfg s S) := inferInstanceAs (Decidable (_ = _))

end Corridas

def planoDe (sb : Superbloque) (s : Storage Hash) : Plano := fun f i =>
  (leerBloque sb s f.val (i / sb.tamanioBloque : Nat)).bind fun bloque =>
    bloque[i % sb.tamanioBloque]?

def planoEn (sb : Superbloque) (consulta : List Instruccion) (s : Storage Hash) (pc : Nat) :
    Plano :=
  (consulta.take pc).foldl (trasPlano sb (bloqueCero sb s)) (planoDe sb s)

theorem lecturasPlano_snoc (sb : Superbloque) (cero : Bytes) (is : List Instruccion)
    (i : Instruccion) (p : Plano) :
    lecturasPlano sb cero p (is ++ [i]) =
      lecturasPlano sb cero p is ++ lecturaPlano (is.foldl (trasPlano sb cero) p) i := by
  induction is generalizing p with
  | nil => simp [lecturasPlano]
  | cons j is ih => simp [lecturasPlano, ih]

theorem take_siguiente {consulta : List Instruccion} {pc : Nat} {i : Instruccion}
    (at_ : consulta[pc]? = some i) : consulta.take (pc + 1) = consulta.take pc ++ [i] := by
  rw [List.take_add_one, at_]
  rfl

variable {sb : Superbloque} {s : Storage Hash} {cfg : ConfigMemoria} {cfgs : Nat → ConfigMemoria}
  {consulta : List Instruccion} {propios : Archivo → Prop}

theorem muestra_inicial (size : cfg.tamanioPagina = sb.tamanioBloque) (h : Consistente sb s) :
    Muestra sb cfg propios (bloqueCero sb s) ⟨crearMemoria cfg, s, []⟩ (planoDe sb s) := by
  have nothing : ∀ q, paginas (crearMemoria cfg) q = none := fun _ => rfl
  refine ⟨(firme_iff.mp (firme_inicial cfg h)).mono fun _ _ => trivial,
    lruAlDia_crearMemoria cfg, rfl, rfl, fun f _ => ?_⟩
  funext i
  simp only [byteEn, vista, view, nothing, planoDe, size]
  rfl

theorem apartada_inicial (h : Consistente sb s) (r : List (FileTag × List Pagina)) :
    Apartada sb cfg propios ⟨crearMemoria cfg, s, r⟩ := by
  have nothing : ∀ q, paginas (crearMemoria cfg) q = none := fun _ => rfl
  refine apartada_storage (n := ⟨crearMemoria cfg, s, []⟩)
    ⟨(firme_iff.mp (firme_inicial cfg h)).mono fun _ _ => trivial, ?_⟩ rfl h
  intro f _ k line hl
  rw [nothing] at hl
  contradiction

structure Alineado (sb : Superbloque) (cfgs : Nat → ConfigMemoria) (consulta : List Instruccion)
    (s : Storage Hash) (S : Sistema Hash) : Prop where
  muestra : Muestra sb (cfgs S.worker) (· ∈ archivosDe consulta) (bloqueCero sb s)
    (S.nodo S.worker) (planoEn sb consulta s S.pc)
  otros : ∀ w, w ≠ S.worker → Apartada sb (cfgs w) (· ∈ archivosDe consulta) (S.nodo w) ∧
    LruAlDia (cfgs w) (S.memorias w)
  leido : S.leido = lecturasPlano sb (bloqueCero sb s) (planoDe sb s) (consulta.take S.pc)

theorem alineado_inicial (size : ∀ w, (cfgs w).tamanioPagina = sb.tamanioBloque)
    (h : Consistente sb s) (worker : Nat) :
    Alineado sb cfgs consulta s (inicial cfgs s worker) := by
  refine ⟨?_, fun w _ => ⟨apartada_inicial h [], lruAlDia_crearMemoria (cfgs w)⟩, ?_⟩
  · simpa [planoEn, inicial, Sistema.nodo] using muestra_inicial (size worker) h
  · simp [inicial, lecturasPlano]

variable [DecidableEq Hash] {md5 : Bytes → Hash} {S : Sistema Hash}

theorem paso_avance {i : Instruccion} (at_ : consulta[S.pc]? = some i) :
    paso sb md5 cfgs consulta S .avance =
      { S.conNodo S.worker (ejecutar sb md5 (cfgs S.worker) (S.nodo S.worker) i) with
        pc := S.pc + 1
        leido := S.leido ++ lectura sb (cfgs S.worker) (S.nodo S.worker) i } := by
  simp only [paso, at_]

theorem alineado_avance (size : ∀ w, (cfgs w).tamanioPagina = sb.tamanioBloque)
    (h : Alineado sb cfgs consulta s S) (allowed : Admisible sb md5 cfgs consulta S .avance)
    (careful : Cuidado sb md5 cfgs consulta S .avance) :
    Alineado sb cfgs consulta s (paso sb md5 cfgs consulta S .avance) := by
  cases at_ : consulta[S.pc]? with
  | none => simpa [paso, at_] using h
  | some i =>
    have own : ∀ f ∈ archivos i, f ∈ archivosDe consulta := by
      intro f hf
      exact List.mem_flatMap.mpr ⟨i, List.mem_of_getElem? at_, hf⟩
    obtain ⟨safe, trusty⟩ := careful i at_
    obtain ⟨next, same⟩ := muestra_propia (size S.worker) h.muestra own (allowed i at_) safe trusty
    rw [paso_avance at_]
    refine ⟨?_, ?_, ?_⟩
    · simpa [Sistema.nodo, Sistema.conNodo, planoEn, take_siguiente at_] using next
    · intro w hw
      obtain ⟨apart, dia⟩ := h.otros w hw
      have still : (S.conNodo S.worker
          (ejecutar sb md5 (cfgs S.worker) (S.nodo S.worker) i)).memorias w = S.memorias w :=
        Function.update_of_ne hw _ _
      refine ⟨apartada_storage apart still next.firme.bueno, ?_⟩
      dsimp only
      rw [still]
      exact dia
    · rw [h.leido, same, take_siguiente at_, lecturasPlano_snoc]
      rfl

theorem alineado_desalojo (size : ∀ w, (cfgs w).tamanioPagina = sb.tamanioBloque)
    (h : Alineado sb cfgs consulta s S) {w : Nat}
    (careful : Cuidado sb md5 cfgs consulta S (.desalojo w)) :
    Alineado sb cfgs consulta s (paso sb md5 cfgs consulta S (.desalojo w)) := by
  by_cases hw : w = S.worker
  · subst hw
    exact h
  obtain ⟨apart, dia⟩ := h.otros w hw
  have relevo := careful hw
  have left : Limpia (· ∈ archivosDe consulta) (S.nodo S.worker).mem :=
    (limpia_iff h.muestra.firme.ordenada).mpr fun f hf => (relevo f hf).1
  refine ⟨?_, ?_, h.leido⟩
  · refine muestra_relevo ((size w).trans (size S.worker).symm) h.muestra left apart dia rfl
      h.muestra.ninguno ?_
    intro f own k line hl
    obtain ⟨m, e, he, rfl, rfl, rfl⟩ := (paginas_some apart.firme.ordenada).mp hl
    have listed := (apart.firme.ordenada.tabla (claveFileTag e.archivo) m).mpr ⟨e, he, rfl⟩
    exact (relevo e.archivo own).2 m listed e he
  · intro o ho
    by_cases old : o = S.worker
    · subst old
      exact ⟨⟨h.muestra.firme.mono fun _ nobody => nobody.elim, left⟩, h.muestra.dia⟩
    · exact h.otros o old

theorem alineado_otra (size : ∀ w, (cfgs w).tamanioPagina = sb.tamanioBloque)
    (h : Alineado sb cfgs consulta s S) {w : Nat} {i : Instruccion}
    (allowed : Admisible sb md5 cfgs consulta S (.otra w i))
    (careful : Cuidado sb md5 cfgs consulta S (.otra w i)) :
    Alineado sb cfgs consulta s (paso sb md5 cfgs consulta S (.otra w i)) := by
  obtain ⟨ok, foreign⟩ := allowed
  have still {o : Nat} (ho : o ≠ w) : (paso sb md5 cfgs consulta S (.otra w i)).memorias o =
      S.memorias o := Function.update_of_ne ho _ _
  by_cases hw : w = S.worker
  · subst hw
    have next := muestra_ajena (size S.worker) h.muestra foreign ok careful
    refine ⟨?_, ?_, h.leido⟩
    · simpa [paso, Sistema.nodo, Sistema.conNodo] using next
    · intro o ho
      obtain ⟨apart, dia⟩ := h.otros o ho
      exact ⟨apartada_storage apart (still ho) next.firme.bueno, by rw [still ho]; exact dia⟩
  · obtain ⟨apart, dia⟩ := h.otros w hw
    have ninguno : (ejecutar sb md5 (cfgs w) (S.nodo w) i).rechazados = [] :=
      ok.1.trans h.muestra.ninguno
    obtain ⟨after, same⟩ := inocua_ejecutar (s := S.storage) (size w) apart.firme.ordenada dia
      (fun _ => ⟨apart, fun _ _ _ => rfl⟩) i foreign careful (sinPerdida_of_ninguno ninguno)
    have dia' := lruAlDia_ejecutar sb md5 apart.firme.ordenada dia i
    have zeros := conCero_ejecutar md5 apart.firme.ordenada dia
      ⟨h.muestra.firme.bueno.sano, h.muestra.cero⟩ i
    refine ⟨?_, ?_, h.leido⟩
    · exact muestra_storage h.muestra (still (Ne.symm hw)) after.firme.bueno ninguno zeros.2 same
    · intro o ho
      by_cases same_ : o = w
      · subst same_
        simpa [paso, Sistema.nodo, Sistema.conNodo] using And.intro after dia'
      · obtain ⟨apartO, diaO⟩ := h.otros o ho
        exact ⟨apartada_storage apartO (still same_) after.firme.bueno,
          by rw [still same_]; exact diaO⟩

theorem lecturas_de_una (size : cfg.tamanioPagina = sb.tamanioBloque) {cero : Bytes}
    (is : List Instruccion) (own : ∀ i ∈ is, ∀ f ∈ archivos i, propios f)
    {n : Nodo (Storage Hash)} {p : Plano} (h : Muestra sb cfg propios cero n p)
    (ok : Along (ejecutar sb md5 cfg) (SinError sb md5 cfg) n is)
    (careful : Along (ejecutar sb md5 cfg) (Unida sb md5 cfg) n is) :
    lecturas sb md5 cfg n is = lecturasPlano sb cero p is := by
  induction is generalizing n p with
  | nil => rfl
  | cons i is ih =>
    obtain ⟨next, same⟩ := muestra_propia size h (own i (by simp)) ok.1 careful.1.1 careful.1.2
    rw [lecturas, lecturasPlano, same,
      ih (fun j hj => own j (List.mem_cons_of_mem i hj)) next ok.2 careful.2]

/-- The READs return what they return for the query alone on one Worker, whatever the preemptions
    and the other queries, when no page is left behind. -/
theorem relevos_leen_lo_mismo (md5 : Bytes → Hash)
    (size : ∀ w, (cfgs w).tamanioPagina = sb.tamanioBloque)
    (sizeOne : cfg.tamanioPagina = sb.tamanioBloque) (consistent : Consistente sb s)
    (consulta : List Instruccion) (worker : Nat) (plan : List Evento)
    (allowed : Along (paso sb md5 cfgs consulta) (Admisible sb md5 cfgs consulta)
      (inicial cfgs s worker) plan)
    (careful : Along (paso sb md5 cfgs consulta) (Cuidado sb md5 cfgs consulta)
      (inicial cfgs s worker) plan)
    (alone : Along (ejecutar sb md5 cfg) (SinError sb md5 cfg) ⟨crearMemoria cfg, s, []⟩
      (consulta.take (correr sb md5 cfgs consulta s worker plan).pc))
    (carefulAlone : Along (ejecutar sb md5 cfg) (Unida sb md5 cfg) ⟨crearMemoria cfg, s, []⟩
      (consulta.take (correr sb md5 cfgs consulta s worker plan).pc)) :
    ComoSinDesalojos sb md5 consulta cfg s (correr sb md5 cfgs consulta s worker plan) := by
  have run : Alineado sb cfgs consulta s (correr sb md5 cfgs consulta s worker plan) := by
    refine invariant_guarded_run (Alineado sb cfgs consulta s) ?_
      (alineado_inicial size consistent worker) (along_and allowed careful)
    intro S e h guard
    cases e with
    | avance => exact alineado_avance size h guard.1 guard.2
    | desalojo w => exact alineado_desalojo size h guard.2
    | otra w i => exact alineado_otra size h guard.1 guard.2
  have own : ∀ i ∈ consulta.take (correr sb md5 cfgs consulta s worker plan).pc,
      ∀ f ∈ archivos i, f ∈ archivosDe consulta := by
    intro i hi f hf
    exact List.mem_flatMap.mpr ⟨i, List.mem_of_mem_take hi, hf⟩
  rw [ComoSinDesalojos, run.leido,
    lecturas_de_una sizeOne _ own (muestra_inicial sizeOne consistent) alone carefulAlone]

/-! Two Workers with pages of one byte. -/

theorem b1_sinSeparador : ':' ∉ b1.file.texto.toList := by decide

def archivoDos : Archivo := ⟨b1, b1_sinSeparador⟩

def marcosDe (w : Nat) : ConfigMemoria := if w = 0 then dosMarcos else unMarco

theorem marcosDe_pagina (w : Nat) : (marcosDe w).tamanioPagina = discoDeSeis.tamanioBloque := by
  unfold marcosDe
  split <;> rfl

def conFlush : List Instruccion :=
  [.create archivoUno, .truncate archivoUno 2, .write archivoUno 0 [120, 121], .flush archivoUno,
    .read archivoUno 0 2, .write archivoUno 1 [122], .read archivoUno 0 2]

/-- Worker 1 creates B:1 for another query and reads the pages that were flushed; Worker 0
    still has them when the query is back. -/
def idaYVuelta : List Evento :=
  [.avance, .avance, .otra 1 (.create archivoDos), .avance, .avance, .desalojo 1,
    .otra 0 (.truncate archivoDos 1), .avance, .desalojo 0, .avance, .avance]

theorem relevos_leen_lo_mismo_corrida :
    (correr discoDeSeis id marcosDe conFlush (formatearFs discoDeSeis) 0 idaYVuelta).leido =
        [some [120, 121], some [120, 122]] ∧
      ComoSinDesalojos discoDeSeis id conFlush dosMarcos (formatearFs discoDeSeis)
        (correr discoDeSeis id marcosDe conFlush (formatearFs discoDeSeis) 0 idaYVuelta) :=
  ⟨by decide, relevos_leen_lo_mismo id marcosDe_pagina rfl
    (consistente_formatearFs discoDeSeis) conFlush 0 idaYVuelta (by decide) (by decide)
    (by decide) (by decide)⟩

def escribeYLee : List Instruccion :=
  [.create archivoUno, .truncate archivoUno 1, .write archivoUno 0 [120], .read archivoUno 0 1]

def entreMedio : List Evento := [.avance, .avance, .avance, .desalojo 1, .avance]

/-- The '0' that TRUNCATE left is read. -/
theorem escritura_desalojada_sin_leer :
    Along (paso discoDeSeis id marcosDe escribeYLee)
        (Admisible discoDeSeis id marcosDe escribeYLee)
        (inicial marcosDe (formatearFs discoDeSeis) 0) entreMedio ∧
      Along (ejecutar discoDeSeis id dosMarcos) (SinError discoDeSeis id dosMarcos)
        ⟨crearMemoria dosMarcos, formatearFs discoDeSeis, []⟩ escribeYLee ∧
      ¬ ComoSinDesalojos discoDeSeis id escribeYLee dosMarcos (formatearFs discoDeSeis)
        (correr discoDeSeis id marcosDe escribeYLee (formatearFs discoDeSeis) 0 entreMedio) := by
  refine ⟨by decide, by decide, by decide⟩

/-- A FLUSH before each preemption is not enough: Worker 0 reads its old page. -/
example : (correr discoDeSeis id marcosDe
    [.create archivoUno, .truncate archivoUno 1, .write archivoUno 0 [120], .flush archivoUno,
      .write archivoUno 0 [121], .flush archivoUno, .read archivoUno 0 1]
    (formatearFs discoDeSeis) 0
    [.avance, .avance, .avance, .avance, .desalojo 1, .avance, .avance, .desalojo 0,
      .avance]).leido = [some [120]] := by decide

end SistemaDesalojos
