import VersionedSite.Site.Url
import VersionedSite.Value

/-!
# The feature grid

What the landing page says the product can do, laid out row by row in a grid of three columns.
Every feature is shown once, in the order of the list.
-/

namespace VersionedSite

/-! ## Icons -/

/-- The icons that come with the site. -/
inductive Icon where
  | kubernetes
  | chatLlm
  | codingAssistants
  | llmIntegration
  | observability
  | pipeline
  | multiComponent
  deriving DecidableEq, Repr

namespace Icon

def all : List Icon :=
  [kubernetes, chatLlm, codingAssistants, llmIntegration, observability, pipeline, multiComponent]

def name : Icon → String
  | kubernetes => "kubernetes"
  | chatLlm => "chat-llm"
  | codingAssistants => "coding-assistants"
  | llmIntegration => "llm-integration"
  | observability => "observability"
  | pipeline => "pipeline"
  | multiComponent => "multi-component"

def ofName? (s : String) : Option Icon := all.find? (·.name == s)

/-- The file of the icon, below the root of the site. -/
def asset : Icon → String
  | kubernetes => "img/kubernetes-logo.svg"
  | chatLlm => "img/chat-llm.svg"
  | codingAssistants => "img/coding-assistants.svg"
  | llmIntegration => "img/llm-integration.svg"
  | observability => "img/observability.svg"
  | pipeline => "img/pipeline.svg"
  | multiComponent => "img/multi-component.svg"

end Icon

/-! ## Features -/

/-- One feature of the product. -/
structure Feature where
  title : String
  icon : Icon
  description : String
  deriving DecidableEq, Repr

def Feature.toValue (f : Feature) : Value :=
  .record [("title", .text f.title), ("icon", .text f.icon.name),
    ("description", .text f.description)]

/-- The features that the landing page shows. -/
def features : List Feature := [
  { title := "Kubernetes Native"
    icon := .kubernetes
    description := "Built as a native Kubernetes operator using Go and Kubebuilder. " ++
      "Automatically manages the complete lifecycle of LLM services with declarative " ++
      "configuration and GitOps workflows." },
  { title := "Chat with LLM"
    icon := .chatLlm
    description := "Interactive chat interfaces powered by OpenWebUI with real-time " ++
      "conversations, context awareness, and seamless integration with multiple LLM " ++
      "backends for natural AI interactions." },
  { title := "Coding Assistants"
    icon := .codingAssistants
    description := "Advanced coding assistance with Tabby integration, providing intelligent " ++
      "code completion, refactoring suggestions, and AI-powered development workflows for " ++
      "multiple programming languages." },
  { title := "Multi-LLM Support"
    icon := .llmIntegration
    description := "Seamlessly integrates Ollama, OpenWebUI, Tabby, and custom models. " ++
      "Supports multiple model formats, automatic scaling, and unified management across " ++
      "different LLM backends." },
  { title := "Advanced Observability"
    icon := .observability
    description := "Built-in Langfuse integration for comprehensive LLM monitoring, tracing, " ++
      "and analytics. Track requests, performance metrics, costs, and user interactions in " ++
      "real-time." },
  { title := "Pipeline Processing"
    icon := .pipeline
    description := "OpenWebUI Pipelines enable custom workflows, filters, and integrations. " ++
      "Process requests through configurable stages with Python-based extensibility and " ++
      "automatic monitoring." },
  { title := "Production Ready"
    icon := .multiComponent
    description := "Enterprise-grade features including Redis persistence, auto-scaling, " ++
      "ingress management, and multi-replica support. Ready for production workloads with " ++
      "minimal configuration." }]

/-! ## The grid -/

def gridColumns : Nat := 3

/-- A feature in its cell of the grid. -/
structure FeatureBlock where
  title : String
  description : String
  /-- The absolute path of the icon. -/
  iconSrc : String
  row : Nat
  column : Nat
  deriving DecidableEq, Repr

def FeatureBlock.toValue (b : FeatureBlock) : Value :=
  .record [("title", .text b.title), ("description", .text b.description),
    ("icon_src", .text b.iconSrc), ("row", .number b.row), ("column", .number b.column)]

/-- The feature with the given place in the list. -/
def Feature.block (base : BaseUrl) (f : Feature) (place : Nat) : FeatureBlock :=
  ⟨f.title, f.description, base.join f.icon.asset, place / gridColumns, place % gridColumns⟩

/-- The features in their cells. -/
def featureGrid (base : BaseUrl) (fs : List Feature) : List FeatureBlock :=
  fs.mapIdx fun i f ↦ f.block base i

end VersionedSite
