/-! # Names of characters that start with a small letter from o to z and need a semicolon -/

namespace InstanceCatalog.Markup.Entity

def smallOToZ : List (String × List Nat) :=
  [("oS", [0x24C8]), ("oast", [0x229B]), ("ocir", [0x229A]), ("ocy", [0x43E]),
   ("odash", [0x229D]), ("odblac", [0x151]), ("odiv", [0x2A38]), ("odot", [0x2299]),
   ("odsold", [0x29BC]), ("oelig", [0x153]), ("ofcir", [0x29BF]), ("ofr", [0x1D52C]),
   ("ogon", [0x2DB]), ("ogt", [0x29C1]), ("ohbar", [0x29B5]), ("ohm", [0x3A9]),
   ("oint", [0x222E]), ("olarr", [0x21BA]), ("olcir", [0x29BE]), ("olcross", [0x29BB]),
   ("oline", [0x203E]), ("olt", [0x29C0]), ("omacr", [0x14D]), ("omega", [0x3C9]),
   ("omicron", [0x3BF]), ("omid", [0x29B6]), ("ominus", [0x2296]), ("oopf", [0x1D560]),
   ("opar", [0x29B7]), ("operp", [0x29B9]), ("oplus", [0x2295]), ("or", [0x2228]),
   ("orarr", [0x21BB]), ("ord", [0x2A5D]), ("order", [0x2134]), ("orderof", [0x2134]),
   ("origof", [0x22B6]), ("oror", [0x2A56]), ("orslope", [0x2A57]), ("orv", [0x2A5B]),
   ("oscr", [0x2134]), ("osol", [0x2298]), ("otimes", [0x2297]), ("otimesas", [0x2A36]),
   ("ovbar", [0x233D]), ("par", [0x2225]), ("parallel", [0x2225]), ("parsim", [0x2AF3]),
   ("parsl", [0x2AFD]), ("part", [0x2202]), ("pcy", [0x43F]), ("percnt", [0x25]),
   ("period", [0x2E]), ("permil", [0x2030]), ("perp", [0x22A5]), ("pertenk", [0x2031]),
   ("pfr", [0x1D52D]), ("phi", [0x3C6]), ("phiv", [0x3D5]), ("phmmat", [0x2133]),
   ("phone", [0x260E]), ("pi", [0x3C0]), ("pitchfork", [0x22D4]), ("piv", [0x3D6]),
   ("planck", [0x210F]), ("planckh", [0x210E]), ("plankv", [0x210F]), ("plus", [0x2B]),
   ("plusacir", [0x2A23]), ("plusb", [0x229E]), ("pluscir", [0x2A22]), ("plusdo", [0x2214]),
   ("plusdu", [0x2A25]), ("pluse", [0x2A72]), ("plussim", [0x2A26]), ("plustwo", [0x2A27]),
   ("pm", [0xB1]), ("pointint", [0x2A15]), ("popf", [0x1D561]), ("pr", [0x227A]),
   ("prE", [0x2AB3]), ("prap", [0x2AB7]), ("prcue", [0x227C]), ("pre", [0x2AAF]),
   ("prec", [0x227A]), ("precapprox", [0x2AB7]), ("preccurlyeq", [0x227C]), ("preceq", [0x2AAF]),
   ("precnapprox", [0x2AB9]), ("precneqq", [0x2AB5]), ("precnsim", [0x22E8]),
   ("precsim", [0x227E]), ("prime", [0x2032]), ("primes", [0x2119]), ("prnE", [0x2AB5]),
   ("prnap", [0x2AB9]), ("prnsim", [0x22E8]), ("prod", [0x220F]), ("profalar", [0x232E]),
   ("profline", [0x2312]), ("profsurf", [0x2313]), ("prop", [0x221D]), ("propto", [0x221D]),
   ("prsim", [0x227E]), ("prurel", [0x22B0]), ("pscr", [0x1D4C5]), ("psi", [0x3C8]),
   ("puncsp", [0x2008]), ("qfr", [0x1D52E]), ("qint", [0x2A0C]), ("qopf", [0x1D562]),
   ("qprime", [0x2057]), ("qscr", [0x1D4C6]), ("quaternions", [0x210D]), ("quatint", [0x2A16]),
   ("quest", [0x3F]), ("questeq", [0x225F]), ("rAarr", [0x21DB]), ("rArr", [0x21D2]),
   ("rAtail", [0x291C]), ("rBarr", [0x290F]), ("rHar", [0x2964]), ("race", [0x223D, 0x331]),
   ("racute", [0x155]), ("radic", [0x221A]), ("raemptyv", [0x29B3]), ("rang", [0x27E9]),
   ("rangd", [0x2992]), ("range", [0x29A5]), ("rangle", [0x27E9]), ("rarr", [0x2192]),
   ("rarrap", [0x2975]), ("rarrb", [0x21E5]), ("rarrbfs", [0x2920]), ("rarrc", [0x2933]),
   ("rarrfs", [0x291E]), ("rarrhk", [0x21AA]), ("rarrlp", [0x21AC]), ("rarrpl", [0x2945]),
   ("rarrsim", [0x2974]), ("rarrtl", [0x21A3]), ("rarrw", [0x219D]), ("ratail", [0x291A]),
   ("ratio", [0x2236]), ("rationals", [0x211A]), ("rbarr", [0x290D]), ("rbbrk", [0x2773]),
   ("rbrace", [0x7D]), ("rbrack", [0x5D]), ("rbrke", [0x298C]), ("rbrksld", [0x298E]),
   ("rbrkslu", [0x2990]), ("rcaron", [0x159]), ("rcedil", [0x157]), ("rceil", [0x2309]),
   ("rcub", [0x7D]), ("rcy", [0x440]), ("rdca", [0x2937]), ("rdldhar", [0x2969]),
   ("rdquo", [0x201D]), ("rdquor", [0x201D]), ("rdsh", [0x21B3]), ("real", [0x211C]),
   ("realine", [0x211B]), ("realpart", [0x211C]), ("reals", [0x211D]), ("rect", [0x25AD]),
   ("rfisht", [0x297D]), ("rfloor", [0x230B]), ("rfr", [0x1D52F]), ("rhard", [0x21C1]),
   ("rharu", [0x21C0]), ("rharul", [0x296C]), ("rho", [0x3C1]), ("rhov", [0x3F1]),
   ("rightarrow", [0x2192]), ("rightarrowtail", [0x21A3]), ("rightharpoondown", [0x21C1]),
   ("rightharpoonup", [0x21C0]), ("rightleftarrows", [0x21C4]), ("rightleftharpoons", [0x21CC]),
   ("rightrightarrows", [0x21C9]), ("rightsquigarrow", [0x219D]), ("rightthreetimes", [0x22CC]),
   ("ring", [0x2DA]), ("risingdotseq", [0x2253]), ("rlarr", [0x21C4]), ("rlhar", [0x21CC]),
   ("rlm", [0x200F]), ("rmoust", [0x23B1]), ("rmoustache", [0x23B1]), ("rnmid", [0x2AEE]),
   ("roang", [0x27ED]), ("roarr", [0x21FE]), ("robrk", [0x27E7]), ("ropar", [0x2986]),
   ("ropf", [0x1D563]), ("roplus", [0x2A2E]), ("rotimes", [0x2A35]), ("rpar", [0x29]),
   ("rpargt", [0x2994]), ("rppolint", [0x2A12]), ("rrarr", [0x21C9]), ("rsaquo", [0x203A]),
   ("rscr", [0x1D4C7]), ("rsh", [0x21B1]), ("rsqb", [0x5D]), ("rsquo", [0x2019]),
   ("rsquor", [0x2019]), ("rthree", [0x22CC]), ("rtimes", [0x22CA]), ("rtri", [0x25B9]),
   ("rtrie", [0x22B5]), ("rtrif", [0x25B8]), ("rtriltri", [0x29CE]), ("ruluhar", [0x2968]),
   ("rx", [0x211E]), ("sacute", [0x15B]), ("sbquo", [0x201A]), ("sc", [0x227B]),
   ("scE", [0x2AB4]), ("scap", [0x2AB8]), ("scaron", [0x161]), ("sccue", [0x227D]),
   ("sce", [0x2AB0]), ("scedil", [0x15F]), ("scirc", [0x15D]), ("scnE", [0x2AB6]),
   ("scnap", [0x2ABA]), ("scnsim", [0x22E9]), ("scpolint", [0x2A13]), ("scsim", [0x227F]),
   ("scy", [0x441]), ("sdot", [0x22C5]), ("sdotb", [0x22A1]), ("sdote", [0x2A66]),
   ("seArr", [0x21D8]), ("searhk", [0x2925]), ("searr", [0x2198]), ("searrow", [0x2198]),
   ("semi", [0x3B]), ("seswar", [0x2929]), ("setminus", [0x2216]), ("setmn", [0x2216]),
   ("sext", [0x2736]), ("sfr", [0x1D530]), ("sfrown", [0x2322]), ("sharp", [0x266F]),
   ("shchcy", [0x449]), ("shcy", [0x448]), ("shortmid", [0x2223]), ("shortparallel", [0x2225]),
   ("sigma", [0x3C3]), ("sigmaf", [0x3C2]), ("sigmav", [0x3C2]), ("sim", [0x223C]),
   ("simdot", [0x2A6A]), ("sime", [0x2243]), ("simeq", [0x2243]), ("simg", [0x2A9E]),
   ("simgE", [0x2AA0]), ("siml", [0x2A9D]), ("simlE", [0x2A9F]), ("simne", [0x2246]),
   ("simplus", [0x2A24]), ("simrarr", [0x2972]), ("slarr", [0x2190]),
   ("smallsetminus", [0x2216]), ("smashp", [0x2A33]), ("smeparsl", [0x29E4]), ("smid", [0x2223]),
   ("smile", [0x2323]), ("smt", [0x2AAA]), ("smte", [0x2AAC]), ("smtes", [0x2AAC, 0xFE00]),
   ("softcy", [0x44C]), ("sol", [0x2F]), ("solb", [0x29C4]), ("solbar", [0x233F]),
   ("sopf", [0x1D564]), ("spades", [0x2660]), ("spadesuit", [0x2660]), ("spar", [0x2225]),
   ("sqcap", [0x2293]), ("sqcaps", [0x2293, 0xFE00]), ("sqcup", [0x2294]),
   ("sqcups", [0x2294, 0xFE00]), ("sqsub", [0x228F]), ("sqsube", [0x2291]),
   ("sqsubset", [0x228F]), ("sqsubseteq", [0x2291]), ("sqsup", [0x2290]), ("sqsupe", [0x2292]),
   ("sqsupset", [0x2290]), ("sqsupseteq", [0x2292]), ("squ", [0x25A1]), ("square", [0x25A1]),
   ("squarf", [0x25AA]), ("squf", [0x25AA]), ("srarr", [0x2192]), ("sscr", [0x1D4C8]),
   ("ssetmn", [0x2216]), ("ssmile", [0x2323]), ("sstarf", [0x22C6]), ("star", [0x2606]),
   ("starf", [0x2605]), ("straightepsilon", [0x3F5]), ("straightphi", [0x3D5]),
   ("strns", [0xAF]), ("sub", [0x2282]), ("subE", [0x2AC5]), ("subdot", [0x2ABD]),
   ("sube", [0x2286]), ("subedot", [0x2AC3]), ("submult", [0x2AC1]), ("subnE", [0x2ACB]),
   ("subne", [0x228A]), ("subplus", [0x2ABF]), ("subrarr", [0x2979]), ("subset", [0x2282]),
   ("subseteq", [0x2286]), ("subseteqq", [0x2AC5]), ("subsetneq", [0x228A]),
   ("subsetneqq", [0x2ACB]), ("subsim", [0x2AC7]), ("subsub", [0x2AD5]), ("subsup", [0x2AD3]),
   ("succ", [0x227B]), ("succapprox", [0x2AB8]), ("succcurlyeq", [0x227D]), ("succeq", [0x2AB0]),
   ("succnapprox", [0x2ABA]), ("succneqq", [0x2AB6]), ("succnsim", [0x22E9]),
   ("succsim", [0x227F]), ("sum", [0x2211]), ("sung", [0x266A]), ("sup", [0x2283]),
   ("supE", [0x2AC6]), ("supdot", [0x2ABE]), ("supdsub", [0x2AD8]), ("supe", [0x2287]),
   ("supedot", [0x2AC4]), ("suphsol", [0x27C9]), ("suphsub", [0x2AD7]), ("suplarr", [0x297B]),
   ("supmult", [0x2AC2]), ("supnE", [0x2ACC]), ("supne", [0x228B]), ("supplus", [0x2AC0]),
   ("supset", [0x2283]), ("supseteq", [0x2287]), ("supseteqq", [0x2AC6]),
   ("supsetneq", [0x228B]), ("supsetneqq", [0x2ACC]), ("supsim", [0x2AC8]), ("supsub", [0x2AD4]),
   ("supsup", [0x2AD6]), ("swArr", [0x21D9]), ("swarhk", [0x2926]), ("swarr", [0x2199]),
   ("swarrow", [0x2199]), ("swnwar", [0x292A]), ("target", [0x2316]), ("tau", [0x3C4]),
   ("tbrk", [0x23B4]), ("tcaron", [0x165]), ("tcedil", [0x163]), ("tcy", [0x442]),
   ("tdot", [0x20DB]), ("telrec", [0x2315]), ("tfr", [0x1D531]), ("there4", [0x2234]),
   ("therefore", [0x2234]), ("theta", [0x3B8]), ("thetasym", [0x3D1]), ("thetav", [0x3D1]),
   ("thickapprox", [0x2248]), ("thicksim", [0x223C]), ("thinsp", [0x2009]), ("thkap", [0x2248]),
   ("thksim", [0x223C]), ("tilde", [0x2DC]), ("timesb", [0x22A0]), ("timesbar", [0x2A31]),
   ("timesd", [0x2A30]), ("tint", [0x222D]), ("toea", [0x2928]), ("top", [0x22A4]),
   ("topbot", [0x2336]), ("topcir", [0x2AF1]), ("topf", [0x1D565]), ("topfork", [0x2ADA]),
   ("tosa", [0x2929]), ("tprime", [0x2034]), ("trade", [0x2122]), ("triangle", [0x25B5]),
   ("triangledown", [0x25BF]), ("triangleleft", [0x25C3]), ("trianglelefteq", [0x22B4]),
   ("triangleq", [0x225C]), ("triangleright", [0x25B9]), ("trianglerighteq", [0x22B5]),
   ("tridot", [0x25EC]), ("trie", [0x225C]), ("triminus", [0x2A3A]), ("triplus", [0x2A39]),
   ("trisb", [0x29CD]), ("tritime", [0x2A3B]), ("trpezium", [0x23E2]), ("tscr", [0x1D4C9]),
   ("tscy", [0x446]), ("tshcy", [0x45B]), ("tstrok", [0x167]), ("twixt", [0x226C]),
   ("twoheadleftarrow", [0x219E]), ("twoheadrightarrow", [0x21A0]), ("uArr", [0x21D1]),
   ("uHar", [0x2963]), ("uarr", [0x2191]), ("ubrcy", [0x45E]), ("ubreve", [0x16D]),
   ("ucy", [0x443]), ("udarr", [0x21C5]), ("udblac", [0x171]), ("udhar", [0x296E]),
   ("ufisht", [0x297E]), ("ufr", [0x1D532]), ("uharl", [0x21BF]), ("uharr", [0x21BE]),
   ("uhblk", [0x2580]), ("ulcorn", [0x231C]), ("ulcorner", [0x231C]), ("ulcrop", [0x230F]),
   ("ultri", [0x25F8]), ("umacr", [0x16B]), ("uogon", [0x173]), ("uopf", [0x1D566]),
   ("uparrow", [0x2191]), ("updownarrow", [0x2195]), ("upharpoonleft", [0x21BF]),
   ("upharpoonright", [0x21BE]), ("uplus", [0x228E]), ("upsi", [0x3C5]), ("upsih", [0x3D2]),
   ("upsilon", [0x3C5]), ("upuparrows", [0x21C8]), ("urcorn", [0x231D]), ("urcorner", [0x231D]),
   ("urcrop", [0x230E]), ("uring", [0x16F]), ("urtri", [0x25F9]), ("uscr", [0x1D4CA]),
   ("utdot", [0x22F0]), ("utilde", [0x169]), ("utri", [0x25B5]), ("utrif", [0x25B4]),
   ("uuarr", [0x21C8]), ("uwangle", [0x29A7]), ("vArr", [0x21D5]), ("vBar", [0x2AE8]),
   ("vBarv", [0x2AE9]), ("vDash", [0x22A8]), ("vangrt", [0x299C]), ("varepsilon", [0x3F5]),
   ("varkappa", [0x3F0]), ("varnothing", [0x2205]), ("varphi", [0x3D5]), ("varpi", [0x3D6]),
   ("varpropto", [0x221D]), ("varr", [0x2195]), ("varrho", [0x3F1]), ("varsigma", [0x3C2]),
   ("varsubsetneq", [0x228A, 0xFE00]), ("varsubsetneqq", [0x2ACB, 0xFE00]),
   ("varsupsetneq", [0x228B, 0xFE00]), ("varsupsetneqq", [0x2ACC, 0xFE00]),
   ("vartheta", [0x3D1]), ("vartriangleleft", [0x22B2]), ("vartriangleright", [0x22B3]),
   ("vcy", [0x432]), ("vdash", [0x22A2]), ("vee", [0x2228]), ("veebar", [0x22BB]),
   ("veeeq", [0x225A]), ("vellip", [0x22EE]), ("verbar", [0x7C]), ("vert", [0x7C]),
   ("vfr", [0x1D533]), ("vltri", [0x22B2]), ("vnsub", [0x2282, 0x20D2]),
   ("vnsup", [0x2283, 0x20D2]), ("vopf", [0x1D567]), ("vprop", [0x221D]), ("vrtri", [0x22B3]),
   ("vscr", [0x1D4CB]), ("vsubnE", [0x2ACB, 0xFE00]), ("vsubne", [0x228A, 0xFE00]),
   ("vsupnE", [0x2ACC, 0xFE00]), ("vsupne", [0x228B, 0xFE00]), ("vzigzag", [0x299A]),
   ("wcirc", [0x175]), ("wedbar", [0x2A5F]), ("wedge", [0x2227]), ("wedgeq", [0x2259]),
   ("weierp", [0x2118]), ("wfr", [0x1D534]), ("wopf", [0x1D568]), ("wp", [0x2118]),
   ("wr", [0x2240]), ("wreath", [0x2240]), ("wscr", [0x1D4CC]), ("xcap", [0x22C2]),
   ("xcirc", [0x25EF]), ("xcup", [0x22C3]), ("xdtri", [0x25BD]), ("xfr", [0x1D535]),
   ("xhArr", [0x27FA]), ("xharr", [0x27F7]), ("xi", [0x3BE]), ("xlArr", [0x27F8]),
   ("xlarr", [0x27F5]), ("xmap", [0x27FC]), ("xnis", [0x22FB]), ("xodot", [0x2A00]),
   ("xopf", [0x1D569]), ("xoplus", [0x2A01]), ("xotime", [0x2A02]), ("xrArr", [0x27F9]),
   ("xrarr", [0x27F6]), ("xscr", [0x1D4CD]), ("xsqcup", [0x2A06]), ("xuplus", [0x2A04]),
   ("xutri", [0x25B3]), ("xvee", [0x22C1]), ("xwedge", [0x22C0]), ("yacy", [0x44F]),
   ("ycirc", [0x177]), ("ycy", [0x44B]), ("yfr", [0x1D536]), ("yicy", [0x457]),
   ("yopf", [0x1D56A]), ("yscr", [0x1D4CE]), ("yucy", [0x44E]), ("zacute", [0x17A]),
   ("zcaron", [0x17E]), ("zcy", [0x437]), ("zdot", [0x17C]), ("zeetrf", [0x2128]),
   ("zeta", [0x3B6]), ("zfr", [0x1D537]), ("zhcy", [0x436]), ("zigrarr", [0x21DD]),
   ("zopf", [0x1D56B]), ("zscr", [0x1D4CF]), ("zwj", [0x200D]), ("zwnj", [0x200C])]

end InstanceCatalog.Markup.Entity
