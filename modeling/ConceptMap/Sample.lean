import ConceptMap.Text.Basic

/-!
# A sample document

A document to start from: the concepts of software development.
-/

namespace ConceptMap

/-- The sample document. -/
def sample : Text :=
  "software -- implements -> functionality
software -- requires -> planning
planning -- produces -> specification
specification -- guides -> implementation
implementation -- creates -> software
software -- depends on -> libraries
libraries -- provide -> utilities
utilities -- enhance -> functionality
functionality -- satisfies -> requirements
requirements -- come from -> users
users -- interact with -> interface
interface -- is part of -> software

software:
A computer program or system designed to perform specific tasks
and solve problems through automated processes
---

functionality:
The intended behavior and capabilities that software provides
to meet user needs and requirements
---

planning:
The process of defining goals, strategies, and steps to achieve
specific objectives in software development
---

specification:
Detailed description of requirements, design, and behavior
that guides the implementation process
---

implementation:
The actual coding and development process that transforms
specifications into working software
---

libraries:
Collections of pre-written code and functions that provide
common functionality for software development
---

utilities:
Helper functions and tools that simplify common programming
tasks and enhance development efficiency
---

requirements:
Formal statements of what the software must do to meet
user needs and business objectives
---

users:
People or systems that interact with and use the software
to accomplish their goals and tasks
---

interface:
The means by which users interact with software, including
user interfaces, APIs, and other interaction points
---
"

end ConceptMap
