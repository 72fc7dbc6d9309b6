/-!
# Names of characters: letters and signs of the scripts in use

Names of characters by Unicode 14, U+0000 to U+1FFF. The rows are one text, with marks for the words that recur. A name begins
with a small letter that tells how many characters it shares with the name before, `a` for none; each plus sign
before the letter adds 26. A name belongs to the code point after that of the name before, unless a semicolon
and a hexadecimal number stand in front of it.
-/

namespace ChangeReview.Text

/-- Letters and signs of the scripts in use, U+0000 to U+1FFF. -/
def modernNames : List String :=
  [";20aʔa˶aɨaˆERÎDOĘRÎġеÎAMɪûbӄa<ƺa.ƺa˧aǲÎĤaз-ˑaƠaʽačg$g:h[g@h|gÕh×gÅgĈaƑaʀƑaĮÎɶaĵÎʣaCOMMERCI]ATaŠŋAvBvCvDv",
    "EvFvGvHvIvJvKvLvMvNvOvPvQvRvSvTvUvVvWvXvYvZbEFT ɩaЌʽbѺ ɩaАǵaŀäaöǵaŠ/&AtBtCtDtEtFtGtHtItJtKtLtMtNtOtPtQtR",
    "tStTtUtVtWtXtYtZbEFT ˻aĚäa.˻aÒ;A0aNO-BǅK ʔaĠ˶aеÎPūÎCURRENCYÎYENÎBROKENŢaʮÎˋaCOPYÁÎFEMIĈ ORDIN]Ħɺśa_Ǝ>ʿɨa",
    "ŊÎГ зaREGIʶEDÎĂaDEGREEÎǲ-ˑÎҕ:n[aǖǵaMICROÎPILCROWÎȫŨaʇaҕ$aMASCUȡORDIN]Ħɺśa˂>ʿɨaVULGǹFЕ$ ȇuĸqƕȇSaĠʣaŠŋA!ö+",
    "cǖ+cА+cÒ+cˋ+cR,*wEvC!ʇvE!ö+cǖ+cА+cˋvI!ö+cǖ+cА+cˋvïvN!ÒvO!ö+cǖ+cА+cÒ+cˋa˥ɺȿaŠŋOÔvU!ö+cǖ+cА+cˋvYʋvTƫ#?RP S",
    "tA!ö+aǖ+aА+aÒ+aˋ+aR,*uEtC!ʇtE!ö+aǖ+aА+aˋtI!ö+aǖ+aА+aˋtïtN!ÒtO!ö+aǖ+aА+aÒ+aˋaDIVISĩÎŠ/&OÔtU!ö+aǖ+aА+aˋtYʋ",
    "tTƫtYů)A!Ă#A!Ă)A!ļ#A!ļ)A!OG$K#A!OG$K)Cʋ#Cʋ)CĨ#CĨ)CĒ#CĒ)Cȳ/&CȳŋDȳ/&DȳŋDÔ#DÔ)E!Ă#E!Ă)E!ļ#E!ļ)EĒ#EĒ)E!OG$K#",
    "E!OG$K)Eȳ/&EȳŋGĨ#GĨ)G!ļ#G!ļ)GĒ#GĒ)G!ʇ#G!ʇ)HĨ#HĨ)HÔ#HÔ)I!Ò#I!Ò)I!Ă#I!Ă)I!ļ#I!ļ)I!OG$K#I!OG$K)IĒ#ƛЫIgõLȸIJ",
    "g/LȸIJ)JĨ#JĨ)K!ʇ#K!ʇuRA)Lʋ#Lʋ)L!ʇ#L!ʇ)Lȳ/&LȳŋL!ȫŨ#L!ȫŨ)LÔ#LÔ)Nʋ#Nʋ)N!ʇ#N!ʇ)Nȳ/&N!CAŦvPžED%BY Aӄ)ƚ#ƚ)O!Ă#",
    "O!Ă)O!ļ#O!ļ)O!>ǖ#O!>ǖgõLȸOEg/LȸOE)Rʋ#Rʋ)R!ʇ#R!ʇ)Rȳ/&RȳŋSʋ#Sʋ)SĨ#SĨ)S!ʇ#S!ʇ)Sȳ/&SȳŋT!ʇ#T!ʇ)Tȳ/&TȳŋTÔ#TÔ)U",
    "!Ò#U!Ò)U!Ă#U!Ă)U!ļ#U!ļ)U!R,*#U!R,*)U!>ǖ#U!>ǖ)U!OG$K#U!OG$K)WĨ#WĨ)YĨ#YĨ)YůvZʋ#Zʋ)ZĒ#ZĒ)Zȳ/&Z!CAŦtāStBÔ)Bò",
    "+cTOPĝ#B!TOPĝ)T$ Õ#T$ Õ)ĖOvCò#Cò)AFRICĜDvDò+cTOPĝ#D!TOPĝtèǳTA)ăEvSCHWAvĖEvFò#Fò)Gòwƒ#HV)ȥwÔvKò#KòtL!ĝuAM",
    "BDAÔ)èMvN!<Ċ#N!ā.LEG)O!ËÒ+cƫ#O!ƫ)OI#OI)Pò#Pòg&YR)T$ :#T$ :)ćg&ăć ȀP#Tʴ)Tò#Tò)T!ǧvU!ƫ#U!ƫ)UȋvVòvYò#Yò)ZÔ#",
    "ZÔ)EZHy ӝED#EZH ӝEDxʁ Ǔg&:Ô)T$ F|#T$ F|g&ĠʉɗÔnWYNNnDØ]CLŏnLAÐ]CLŏnALVEOLǹCLŏnREȵFLEX CLŏ)DZ!CAŦw!/&Zȳ/&D",
    "ZȳŋLJw!/&J#LJ)NJw!/&J#NJ)Aȳ/&AȳŋIȳ/&IȳŋOȳ/&OȳŋUȳ/&UȳŋUů(Ă#Uů(Ă)Uůɧ#Uůɧ)Uů(CAŦ#Uů(CAŦ)Uů(ö#Uů(ötèE)Aů(Ă#A",
    "ů(Ă)AĒ(Ă#AĒ(Ă)AE!Ă#AE!Ă)GÔ#GÔ)Gȳ/&GȳŋKȳ/&KȳŋO!OG$K#O!OG$K)O!OG$K(Ă#O!OG$K(Ă)EZHȳ/&EZH!CAŦtJȳŋDZw!/&Z#DZ)",
    "Gʋ#Gʋ)HWǃvWYNNvN!ö#N!ö)A!R,*ɧ#A!R,*ɧ)AEʋ#AEʋ)OÔɧ#OÔɧ)A!>ö#A!>ö)A!Ġļ#A!Ġļ)E!>ö#E!>ö)E!Ġļ#E!Ġļ)I!>ö#I!>ö)I",
    "!Ġļ#I!Ġļ)O!>ö#O!>ö)O!Ġļ#O!Ġļ)R!>ö#R!>ö)R!Ġļ#R!Ġļ)U!>ö#U!>ö)U!Ġļ#U!Ġļ)S!ĤÊ#S!ĤÊ)T!ĤÊ#T!ĤÊ)YOGH#YOGH)Hȳ/&H",
    "ȳŋN!ā.LEG#D!ɓ)OU#OU)Zò#Zò)AĒ#AĒ)E!ʇ#E!ʇ)Oů(Ă#Oů(Ă)O!Ò(Ă#O!Ò(Ă)OĒ#OĒ)OĒ(Ă#OĒ(Ă)Y!Ă#Y!ĂtL!ɓtN!ɓtT!ɓtƛЫJuBʡ",
    "tQPʡ)AÔvCÔ#CÔ)L!ĝvT!ȃð#S!SWê ǓtZ!SWê Ǔ)ʉɗ#ʉɗ)BÔvUŢvèVvEÔ#EÔ)JÔ#JÔ)/Qò Ǔ#Qò Ǔ)RÔ#RÔ)YÔ#YÔtèAtɞtèɞtBòtĖOtC",
    "!ɓtD˅+aĊtăEtSCHWAyòtĖEtăĖE+iòtȺăĖEtƛЫJÔtGòtɡGgɵG#GƒtȨS ƫtèHtHòuƚòtIÔuOTAgɵI#L!ËÒ+aBELT+aǧuEZHtèM+b!āLEGt",
    "MòtN!<Ċ+aǧgɵN#ĝR%OgɵOE#ȺȂtPHItèR+b!āLEG+hĊtR!āLEG+aǓ+aFãĊuEVǆ%R!FãĊgɵR+bĠR#SòtćtƛЫJÔЩtSQUȧăćtć!ɓtèTu!ǧtU",
    "ŢuȋtVòtèV+aW+aYgɵY#Z!ǧ+aɓtEZHw!ɓg&ʉɗnPHARYNGE]Ӟ%FRɺT|nĠʉɗnʏETCH%CnBILABI]CLŏn/õB#ȺĖEgɵGò+bH#JӅtèKgɵL#Qòg",
    "&ʉɗÔnăʉɗÔ#DZʡuEZHʡuZʡ!ɓtTSʡućʡuCʡ!ɓtFƚʡtLSʡuZʡg&BILABI]ġCUSS|pDØ]ġCUSS|#èH!FãĊ+p(Ǔaʖ&/HxòwJwRwèR+eòwõĠRw",
    "WwYqPRŒq>PRŒqèĤqAӄqăĤrѺ ŐR,q<ŐR,qʉɗqăʉɗq_ʛqÁʛqUPʛqÈʛqАǵaCAŦaʖ&ĚäqĂqǖǵqöǵǪĚäuĂuöǵuǖǵqˤƑqŐˤƑqеR%.ŐR,y<ŐR,q",
    "UPȹqÈȹqǲÍqˑÎļaʌaR,*aOG$Ka/Òa>ǖǵaʖ&ʈTîĊqĢǵq/GƒwLwSwXwăʉɗqEXĶ-ơT$ŢȲT$ŢqMID T$ŢǪT$ŢqEXĶ-ŀT$ŢqYēDEƂT=T$Ær^ D",
    "EƂT=T$ÆqӞ,qUNASPIRƝDq>AӄǪÈʛuUPʛu_ʛuÁʛwNGqËöǵx>öǵ+eǖǵǪÒq˱ƑqBEGēơT$qƌ ơT$qBEGēŀT$qƌ ŀT$qåLFqĖåLFǪ_óȄöǵkǖǵk",
    "АǵkÒkĂkßäkļkʌlIAEıISkĊ*kR,*k>ǖǵkCAŦkĚä*k>Ěä*röǵkʄkĠļkèĤ*kĤ*kăĤ*kĤ* ÁköǵŰǖǵŰ_ȹŰÁȹŰ<^LE*kƫk<ŐR,ŰUPȹŰÈȹŰǲÍŰ",
    "ˑÍŰPŞTũZ%ĊŰǧŰʘlIAEıISŰR,ŰĤÊlEDIĘkOG$KkĚäŰBRIDGEŰĠ>ARCHŰCAŦÊlIRCUMFLEXǵŰļŰĠļŰÒŰĂŰŀäk>ŀäkÒ ßѝŹð ßѝāð ßѝŹʽ ",
    "ßѝāʽ ßѝ.ŐR,ŰĠBRIDGEŰÃÊlEAGULLŰX*kĚÒk>ßäkö T$Ækǖ T$ÆkʳƲqKOŦISqѬ ВqԏkBRIDGE*kɶŰ>ĚäŰ<^LEŰŊ Ò*kHOMOÌTIC*kхȑ*",
    "k<.ÛŰUPʚŰʞEME ɯERkÁʛ*k<ŐR,*kFERMATAkXŰ_ʛŰÁʛÊ+aûŎʛÊqŐR,*kʌ Ák˧Ű>R,ŰZIGZAG*k>ļÊwrĂxÊrÒrĠļrâŰŠ/&ǂE+dI+dO+dU",
    "+dC+dD+dH+dM+dR+dT+dV+dXaʳŋHǯ#Hǯ)ARДSAMPI#ARДSAMPIgћALőìћALÍ)PAMPHYLąDIGƒ#PAMPHYLąDIGƒ;37Agԏg/ăLUєʦċmȽLU",
    "єʦċmăȽLUєʦċgʣ)YOT;384gВgѬ В)ɞ!ВgANO TŬIA)Eȋ!ВwTA!Вvȥ!В;38CvТ!В;38EvUȋ!ВvȂ!В#ȥ!Ѭ(В)ɞvBǯvGƒvǳTAvEȋvZǯvǯvTH",
    "ǯvȥvЬváDAvMUvNUvXIvТvPIvʈ;3A3vʦvTAUvUȋvPHIvǻvPSIvȂvȥ!ѬvUȋ!Ѭ#ɞ!ВtEȋ!ВuTA!Вtȥ!ВtUȋ!Ѭ(ВtɞtBǯtGƒtǳTAtEȋtZǯtǯ",
    "tTHǯtȥtЬtáDAtMUtNUtXItТtPItʈtŚʦtʦtTAUtUȋtPHItǻtPSItȂtȥ!ѬtUȋ!ѬtТ!ВtUȋ!ВtȂ!ВgõKAIċgBǯċgҔgUȋòċtǖЩċtˋЩċgPHIċ",
    "hIċgKAIċg&ARДKOPPA#ARДKOPPAg&ƉGMA#ƉGMAg&DIGƒ#DIGƒg&KOPPA#KOPPAg&SAMPI#SAMPIaCOPTîŋåIįåIņFEIįFEIņKHEIįKHE",
    "IņǮIįǮIņG^IAįG^IAņSHȍįSHȍņDEIįDEIaʳЬċgʈċgLUєʦċhETʍYOTgõҔgLUєEȋċgăLUєEȋċ)ɔ#ɔgõLUєʦċpETÐǔN#SANgʈÔċgõăLUєʦċ",
    "oȽLUєʦċoăȽLUєʦæCѵŋIE!özOyDJEyGJEyUKRñąIEyDZEyBYELORUSSIAN-UKRñąIyYIyJEyLJEyNJEyTåyKJEyI!öyŹUyDZHEʃEyVEyG",
    "HEyDEyIEyZHEzEyIyŹIyKAyELzMzNyOyPEyERzSyTEyUyEFyHAyTSEyùy?+aŗyHğÍyYERUyГÍyEyYUzA~AwBEwVEwGHEwDEwIEwZHExE",
    "wIwŹIwKAwELxMxNwOwPEwERxSwTEwUwEFwHAwTSEwùw?yŗwHğÍwYERUwГÍwEwYUxAwIE!öxOwDJEwGJEwUKRñąIEwDZEwBYELORUSSIA",
    "N-UKRñąIwYIwJEwLJEwNJEwTåwKJEwI!öwŹUwDZHEÂȂ~ȂÂYAT~YATÂч%E~ч%EÂȚɸ~ȚɸÂч%Țɸ~ч%ȚɸÂBIGɸ~BIGɸÂч%BIGɸ~ч%BIGɸÂKS",
    "I~KSIÂPSI~PSIÂFǰ~FǰÂIZHIƔ~IZHIƔÂIZHIƔ!>öǵ~IZHIƔ!>öǵÂUK~UKÂRū Ȃ~Rū ȂÂȂ!TITLO~Ȃ!TITLOÂOT~OTÂKOPPA~KOPPAjМS",
    "ÍbOMBIN=CѵTITLOtPŞTũZ÷t˸ PNEUMATAtЉ PNEUMATAuOKRYTIEtHǍR%МSÍtMĎĩSÍbѵŋŹI˅~ŹI˅ÂʀГÍ~ʀГÍÂER!Tŏ~ER!TŏÂGHE!UPБ",
    "~GHE!UPБÂGHEÔ~GHEÔÂGHE!ËĊ~GHE!ËĊÂZHE!ǘ~ZHE!ǘÂZE!ǘ~ZE!ǘÂKA!ǘ~KA!ǘÂKA!Ȼ~KA!ȻÂKAÔ~KAÔÂBêKIRƞ~BêKIRƞÂEN!ǘ~EN",
    "!ǘjõLȸķGHEj/LȸķGHEÂPE!ËĊ~PE!ËĊÂӜHA~ӜHAÂES!ǘ~ES!ǘÂTE!ǘ~TE!ǘÂʲ U~ʲ UÂʲ UÔ~ʲ UÔÂHA!ǘ~HA!ǘjõLȸTE TSEj/LȸTE T",
    "SEÂù!ǘ~ù!ǘÂù!Ȼ~ù!ȻÂSHHA~SHHAÂӜù~ӜùÂӜù!ǘ~Ӝù!ǘj&PALOCHKAÂZHE!ļ~ZHE!ļÂKAò~KAòÂEL˅~EL˅ÂENò~ENòÂEN˅~EN˅ÂƈKǭąù",
    "~ƈKǭąùÂEM˅~EM˅wPALOCHKAÂA!ļ~A!ļÂAů~AůjõLȸA IEj/LȸA IEÂIE!ļ~IE!ļÂSCHWA~SCHWAÂSCHWAů~SCHWAůÂZHEů~ZHEůÂZEů~",
    "ZEůÂӜDZE~ӜDZEÂI!Ă~I!ĂÂIů~IůÂOů~OůÂĝR%O~ĝR%OÂĝR%Oů~ĝR%OůÂEů~EůÂU!Ă~U!ĂÂUů~UůÂU!>ǖ~U!>ǖÂùů~ùůÂGHE!ǘ~GHE!ǘÂ",
    "YERUů~YERUůÂGHEÔЩ~GHEÔЩÂHAò~HAòÂHAÔ~HAÔÂшDE~шDEÂшDJE~шDJEÂшZJE~шZJEÂшDZJE~шDZJEÂшLJE~шLJEÂшNJE~шNJEÂшSJE",
    "~шSJEÂшTJE~шTJEÂăZE~ăZEÂELò~ELòÂLHA~LHAÂRHA~RHAÂYAE~YAEÂQA~QAÂWE~WEÂŴUTƞ~ŴUTƞÂEL!ËĊ~EL!ËĊÂEN!ËĊ~EN!ËĊÂPE",
    "!ǘ~PE!ǘÂSHHA!ǘ~SHHA!ǘÂEN!<Ċ~EN!<ĊÂDZZHE~DZZHEÂDù~DùÂEL!ǘ~EL!ǘ;531aARMENąŋAYByBENyGIMyDAyECHyZAyEHzTyTOyZ",
    "HEyINIyLIWNyXEHyCAyKENyHOyJAyGHADyCħyMENyYIyNOWy?yVOyŗyPEHyJħyRAySEHyVEWyTIWNyɋyCOyYIWNyPIWRyKEHyOHyFEH;",
    "559jʖ&<ŐR,jAӄjEMPHASISÆkXCáAŶjĤjʣjСŶ~èAYBwAYBwBENwGIMwDAwECHwZAwEHxTwTOwZHEwINIwLIWNwXEHwCAwKENwHOwJAwGH",
    "ADwCħwMENwYIwNOWw?wVOwŗwPEHwJħwRAwSEHwVEWwTIWNwɋwCOwYIWNwPIWRwKEHwOHwFEHqȸECH YIWNqETʍYIÔjƠjз;58DaÁ-FAC,",
    "ƮMENąEÐƯYÎ_-FAC,ƮMENąEÐƯYÎARMENąDȨÍ;591aHEBREWǵ ETNAHTAoSEGOLpHALSHŬToZAQEF QAȭuGADOLoTIPEHAoREVIAoZARQA",
    "oPêTAoYETIVoTEVIRoGERću MUQDAMr?YIMoQARNEY PýoTELI? GEDOLAoPAZERoATNAH HAFUKHoMUNAHpAHAPAKHpERƈu KEFЍoDA",
    "RGAoQADMAoTELI? QEȭAoYERAH BķYOMOoOLEoILUYoDEHIoZIʜhǣƨSORA ÇhО åVAnHATAF SEGOLtPAȼtQAMATSoIRIQnTSEREnSEG",
    "OLnPAȼnQAMATSnHOás HASçȅVAVnQUBUTSnːđMAPIQnMETEGiUNCTU÷ƨQAFiOINT RAFEiUNCTU÷ǱSEQiOINT ëNŨoINŨiUNCTUAĹSOF",
    "ǱSUQhǣ Ļƛmìƛhǟ Ƌ HAFUƈiOINT QAMATS QAȭ;5D0h&ƴoBEToGŒLoDŴToHEoVAVoZȓoHEToTEToYODoŚɟoɟoáEDoŚMEMoMEMoŚƋoƋoљ",
    "oȓoŚPEoPEoŚƔDIoƔDIoQOFoRćoëNoTAV;5EFhYOD ôhLȸYIDDã >VAVyVAV YODy>YODhǟ GERćw?YIM;6ěýBîˆERÍhÄSANAHhFOOTŊE",
    "ÆERhÄSAFHAoMVAThˆERÆ*g-ĦîCUBEȊOTn@THȊOTg RAYg-ĦîPçMĎEÍrĀÑÍbFGHANIÍbRABîĤhDƝ ɈhPOETîVǆEÍhÄMISRAmSAĘĘȘ ŞYH",
    "E WǭALámŞYHE ǭALámRAHMATUĘH ŞYHEoDI AĘȘ ANHUmTAKHĺUSiMĺ ơȼsLȸƴ!á!ƳsZñnFɝnDƒnЭiEMIƑh&ǣhʯTEXTÆhǝƛ ǟÆhʣh&Kê",
    "MIRI Ƴoțoƴ!MAľ*yț*oǚ!ț*oƴ!țÊoƳ!ț*oƴoBEHoTEHƨRBUTArpħoʒoƇoƄoDALoƧLoɋoZñoSĔpHĔpADoDADoȼoZAHoñoгoKEħ!ƅ*+a[ɑ",
    "ÊoFARSI Ƴ!ĠV+dƅ*+e[ɑ*hTATWEELh&FEHoQAFoɟoáoĉoǎoħoǚoɤoƳhFɝȭhDƒȭhЭȭhFɝhDƒhЭh?ľiUKUNhMAľH*hț*nȏhǥɡƴhĠDƒhǣ ǎ",
    " GHUĿhZWýKAYhǋ/V*sĠ/V*sʘhăDƒhFɝ!ƅhWAVY țÊg-Ħîčt$t:u[t@Һg ġеÍhDECIM]ɈhМS ɈhНǶǤh&ƛЫBEHwQAFoҕƴoƴ WASLAuITH ",
    "WAVY ț*+jȏoơțy ƴzǚoU!ț*oơț ƳoTTEHsEHoBEEHoTEH!R,xɍ* ÈŇoPEHoTEħoBEħoƇ!ț*xƅ Ǡ*oNƳoDƳoƇ!ɍ*oTCħtEHoľLpAL!R,x",
    "ʘ+g(/ȼɅLpDAHALpULpAL!ɍ* ÈŇx@ɑ*oRɋpEH!/VxR,xʘx/VÊxʘ(ʌxƅ*oJEHoɋ!@ɑ*oSĔō(ʌyɍÊ+o(ɍ*pAD!ƅÊy[ɑ*oȼ!ɍ*oñ!ɍ*oƛЫFE",
    "HoFEHǗ MOV%ȏ+bȏoVEHoFEH!ɍÊoPEħoQAFĒxɍ*oKEħoSWê ɟoɟ!R,xʌoNGoɟ!ɍÊoGAFr!R,oNGOEHoGAF!ƅÊpUEHpAF!ɍ*oá!/Vxʌxɍ*",
    "+iȏoǎōtGHUĿoRǎoǎ!R,yɍ*oħ DOACHêMEEoTCħĒoħ!Ƴ*sGOALw!ț*oTEHƨRBUTA GOALoǚ!R,oKIRGHIZ OEoOEoUoYUoKIRGHIZ YUo",
    "ǚ!ƅ*oVEoFARSI ƳoƳ˅x/VoǚĒoEoƳ!ɍÊsĝREEy!ț*hƠh&AEh/ơLȸSAD!á!ɤ+bQAF!á!ɤsǸsá ƴsʒsɍsSĔhʯéHhǤTàRUB EL HIZBiMĺ ơ",
    "Rū%щsUP.žT^ЎщsƛЫŷàƄsĉĄnŀSĔnơMAľnǚnƳnơƳsǎhɄCEųǔJDAHhEMPёƟ ŀɗuơɗhRū%ơɗ!FĎ%Ɵh/ŀĉh&DAL!ĠVoɋ!ĠVaEXӠč+c$+c:+d[",
    "+c@+d|+cÕ+d×+cÅ+cĈaýB˫SHĔōoDADōoгōhÄSĦHI AMɪûtǇTǇIŖȮNh&ħ!ĠVaSYRIAC ʯPýʞhSUPRAäǹƠjBäǹƠjPRAäǹƑjBäǹƑhĞƑhƑ S",
    "KEW%_uÁhSUPRAäǹƑ SKEW%_jBäǹƑ SKEW%ÁhэȪŖhHARKLEĜOBELUSqMETOBELUSqAʶISCUS;70FhСŶh&ŞPHoҕŞPHoBïoGAMALt ǫǑNIo",
    "DŞTHpOTЫDŞTH RãoHEoǚoZñoHïoTïs ǫǑNIoYUDHs HEoюoáADHoMIMoƋoSEMKATHoŚSEMKATHoEoPEoăPEoњoQAPHoRãoëNoTAWoɪąB",
    "HïwGHAMALwDHŞTHhPTƇA*oȏoƛTEDhZQAPHA*oȏoƛTEDhRBASA*nȏhȽZáA Ƣu^ЍRhHBASA*nȏm-ESASAŨTEDhESASA*nȏhRWAHAhFEMIĈ",
    "ŨhQUSH?YAhRUKKAƈh: Ǡɑ*zȏi[ɑ*sȏhѕä*uȏhѡhĝREKH;74Dh&SOGDąZHñwƈPHwFEaýB˫BEH!ɍ ƢLYÊxʘ(ɍ*xɍŜUPŇÊ++e(ƅ*yWOɑÊ(ʌ",
    "xĠ/VÊx/VoƇ!ƅ*y[ɑŜUPŇÊoDAL!ƅ ǠLYÊ(/ȼxĠ/VÊoɋÔoSĔ!@ɑ*oñ!ƅ*y[ɑŜÈŇ*yWOɑ ǠLY*oFEH!ƅÊy[ɑŜUPŇÊoKEħĒzɍ*+kҙUPŇÊoĉĒ",
    "+cȏoǎ!ƅÊy/ȼ+eVoá!ĝoɋ!ƅ ǠLY*xț*oSĔ!ƅ ǠLY*oƇ!/ýB˫ȼÊ+vû ƅoSĔ!/ýB˫ȼ(ƅoɋ!/ýB˫ȼ(ƅoƇ!/ýB˫ȼ*oƴ!EXӠʟ:*++b[*oFARSI",
    " Ƴ!EXӠʟ:*++g[*++f@Êoǚ!EXӠʟ:*++a[*oƳŢREE!EXӠʟ:*++h[*oƇ!EXӠʟ@ÊoSĔ!EXӠʟ@*yĠVoɟ!ƅ*aƧANA &HAAo?ҿǎUoRAAoBAAoLH",
    "AҿKAAFUoũFUoVAAVUoĉUoFAAFUoDHAALUoƧAoLAAMUoGAAFUpNAҿSĔUoDAҿZAҿTAҿYAAoPAҿJAҿŗҿĪAoHHAAoƈAoƧALUoZAAoSHĔUpAA",
    "DHUoDAADHUoTOoZOoñUoгUoQAAFUoǁVUhABAFILIiABAAFILIhIBIFILIhEEBEEFILIhUBUFILIhOOBOOFILIhEBEFILIiYBEYFILIhO",
    "BOFILIiABOAFILIhSUKUNh&NAA;7C0aNKO čk$k:l[k@ԇe&AlEElIlElUlOOmlDAGBASIĿlNlBAlPAlTAlJAlŗlDAlRAmRAlSAlGBAlF",
    "AlKAlLAlNA WOLOSOlMAlþmAlHAlWAlYAlþ WOLOSOlJONA JAqŗqRAeȄŹơT$uŀT$uɀ=T$oāDESCƌ=T$tơT$tŀT$tɀ=T$oNASũZAŶo>ʌ",
    "eơT$ AӄeŀT$ AӄeǢOO DENNENlGBAKURUNENeĤe˶eLAJANYŞN;7FDeDƦAYŞNfOROMEÍeTAƣÎSAMARITĜ&ŞFrBITrGAƣrDŞTrIYrBAArZ",
    "ENrITrTITrYUTrKAAFrLABATrMIMrƋrS,AATrINrFIrƔADIYrQUFrRãr?NrTAAFkǣĬr-ŞFpOCCLUSĩpːlODIFIç&EPENÌTîYUTlARK E",
    "PENÌTîYUTkǋāEvEvßāAAvāAAvAAvßāAvāAvAkʖ&ŹAkǋŹAvāUvUkʖ&IkǋāIvIvOvSUKUNkǣ NEQUDAA;830kǟ NEQUDAAwAFSAAQxNGED",
    "wBAUwATMAAUwëYYAŞAkСŶkǟȮLODîQIƔwZIQAAwQIƔwZAEFwTURUwARKAANUwSOF MêFAATwAĿAU;840aMɼ˫HALQApABqGqDqHpUåĿpAZ",
    "pITpATTqKSArqLqMqNqSpINpAPqSZqQqRqSHqTpDUåĿpKADpñiAFFRɺŶiVOCũZAŶiGEȶAŶ;85Eiǟ;860aSYRIAC &MALéá øyJAyþyĪy",
    "NNÓNAyBHAyRAyLLÓLAySSA;870aýB˫ƴ!AĪCH%Fɝ+hǏ.Fɝy.Ëðy<ËðyAĪCH%Э+hɴ.Э+hRū ʌ+iѺ RūŨ+h<RūŨ+hRū ʘyʌyAĪCH%Ǐ.Fɝ(ʌ",
    "y.Ëð(ʌyAĪCH%ɴ.Э(ʌ+hǏ.Fɝ(<R,y.Ëð(<R,yAĪCH%ɴ.Э(<R,+h.ț+h<țhTATWEEL!ßʏ˿ ț+fǚuƅÊh&THēƳhBASEȡRūŨh˱RūŨh&ǎ!Ġ/Vo",
    "Ƈ!Ġ/VÊoȼōxɍÊoKEħ!ƅ ǠLYÊhĚǓ;890hPūÆ*iIAʏEÆ*;898h/ơХ AL-JUZnŀХ ãMAAMxMAŞwTASЏhMAľ ǁJIBhҕƴ MOKHǭAShĕDƨľhĸƨľ",
    "ÖMAľh&BEH!/VÊxț*oʒ!ƅ*oȼ!ƅ*oFEHō(ɍ*oQAFōoá!>ĝoĉ!ɍ*oƳ!ƅÊ(ț*+qʌoɋ!ȀPoǚǗ ʁINoROH,YA ƳoŀƴoDAL!ɍÊoSAD!ɍÊoGAF!Ġ",
    "ðoʲ ǚoZñ!ĠV*oñ!ɍÊoɟōoQAFō(NOɑ*oBEH!/ĉ*oPEH!/ĉ*oTEH!/TEH*oɋ!/ǎ*oƳ!ƅÊ(/ǎ*oAFRICĜFEHwQAFwǎoPEH!/VoTEH!/VpTE",
    "H!/VpCħ!/VoKEħ!/Voг!ɍ*oAFRICĜQAF!ɍ*oʒ!ɍ*+jȏoá!/ýB˫ȼ*oѐFh/FARSI ƳnơFARSI ƳsƳŢREE!ƅÊsХǔHsZAHhȢRū ʌxȏhSUKUN",
    "ÊhȢÇÊnRūŨĬƖ ÇÊh/ŀǚnơХƮ-RUBsSADsñsQAFsǎ!Эnŀǎ!ЭnơХ ATH-ƧLɝyS-SAJDAyN-NISFxSAKTAxQIFxWAQFAsFOOTŊEÆERsÄSAFHA",
    "hDISPUT%ʯéHhèDƒÊhɓY FɝnDƒnЭnFɝȭnDƒȭnЭȭhT$ $ ʌmƅ*mȀP*m$ ʘmƅÊmȀPÊhĖFɝȭmDƒȭmЭȭh/ơǚhFɝ!R,sʌhЭōh_ʛ*hÁʛ*h_ʛÊhÁ",
    "ʛÊh>Áʛ*+jǗhÁʛ*ǗhDƒǗhǣ ƖɊS ǎ GHUĿaDEVANAǫIƗĠʄqʄqŮqǨl&ŹAsAtAԋƀ+aLsѦ EsŹEsEsAIsѦ OsŹOsOsAUsK˟G˟øsC˟J˟þsĪuHA",
    "sľuHAsĿsT˟D˟NAtĿsP˟B˟MAsYAsRAtRAsLAtLAuLAsVAs?tSAtAsHAlǋOExOElÄʬqяlƿAwIxIwUxUwƀ+fRwѦ EwŹEwEwAIwѦ OwŹOwOw",
    "AUlÄɉlǋPRãƧMAĶ EwAWlOMlSTıSƗUDAĪxANUDAĪlöǵlǖǵlǋѦ āEwUExUEl&QAsKHHAsGHHAsZAsDDDHAsRHAsFAsYYAsƀR+aLLlӑfLlD",
    "ɼmѣmɖT щr$r:s[r@s|rÕs×rÅrĈlСȿlÄơSPAC,Ũl&Ѧ AsOEtOEsAWsUEtUEsMARWARI ľsZHAsşYAsGGAsJJAsʉɗsDľsBBAaBƚũ ANJIi",
    "ÄʄnŮnǨ;985i&AqAӕƀxL;98FpEpAI;993pOpAUpKӋӫҪA;9AӓpYApRA;9B2pLA;9B6p?qSAq˚;9BCiÄʬnяiƿҭƀ+cR;9C7tEtAI;9CBtOtA",
    "UiÄɉi&KHɼŲ;9D7iAU Ѣ;9DCi&RRAɅ;9DFpYYApƀRxLLiӑcL;9E6Ӵӟi&RA!ȫǊɷALxìDIɷALiRUPEEÆoSIGNiCURRENCY ћAś $+b:+c[+",
    "b@+b$ ЫTHĜÌ DENOȶAśrDENOȶAś ÕŘiIS?RiGɼÆi&VEDîŮiСȿiSûHIÆ;A01aGURMUKHIƗADAK BĦIoBĦIoǨ;A05j&ArԌ;A0FqEEqAI;A",
    "13qOOqAUqKəGəøqCəJəþqĪsHAqľsHAqĿqTəDəNA;A2AqPəBəMAqYAqRA;A32qLArLA;A35qVAq?;A38rAɅ;A3CjÄʬ;A3EjƿAuIvIuUvU",
    ";A47uEEuAI;A4BuOOuAUjÄɉ;A51oUDAAT;A59j&KHHAqGHHAqZAqRRA;A5EqFA;A66jčp$p:q[p@ӦjTIPPIjAľKjIRIjURAjEK ONKAR",
    "jÄYAKêjСȿ;A81cJýTIƗʄoŮoǨ;A85j&ArԌqƀyLjЮ Ѧ E;A8Fj&EqAIjЮ Ѧ O;A93j&OqAUqKəGəøqCəJəþqĪsHAqľsHAqĿqTəDəNA;AAA",
    "qPəBəMAqYAqRA;AB2qLArLA;AB5qVAq?rSArAɅ;ABCjÄʬoяjƿAuIvIuUvUuƀ+dRuѦ E;AC7uEuAIuѦ O;ACBuOuAUjÄɉ;AD0jOM;AE0j",
    "&ƀRyLLjӑdL;AE6jčp$p:q[p@ӦjСȿjRUPEEÍ;AF9j&ZHAjÄSUKUNpHAľoMAľHoT[-ƛ ʬ*oȗʬ*o:-ȗʬ*;B01aORIYAƗʄlŮlǨ;B05g&AoAn",
    "IoInUoUnƀvL;B0FnEnAI;B13nOnAUnKȦGȦønCȦJȦþnTT˚nDD˚nĿnTȦDȦNA;B2AnPȦBȦMAnYAnRA;B32nLAoLA;B35nVAn?oSAoAnHA;B",
    "3CgÄʬlяgƿӰrƀ+aR;B47rErAI;B4BrOrAUgÄɉ;B55lßägAI ѢhU Ѣ;B5Cg&RRɱ;B5FnYYAnƀRvLLgӑaL;B66gčm$m:n[m@ӧgIS?Rg&WAg",
    "FЕ$ ȇtĸpƕȇSp$ ҤtÅHpƕҤS;B82aTAɕƗŮlǨ;B85g&AoAnIoInUoU;B8EnEoEnAI;B92nOoOnAUnKA;B99nønCA;B9CnJA;B9EnþnĪ;BA3",
    "nĿnTA;BA8nNAoĿnPA;BAEnMAnYAnRAoRAnLAoLApLAnVAn?oSAoAnHA;BBEgƿӰ;BC6rEsErAI;BCArOsOrAUgÄɉ;BD0gOM;BD7gAU Ѣ;",
    "BE6gčm$m:n[m@ӧgЖnȈrМgDAYőŻTHőYǌőDEBITőCREDITőAS*őRUPEEőˆERÍ;C00bELUGUƗȄʄ*nûRABĦUmŮmǨmȄŮ*h&ApAoIpIoUpUoƀw",
    "L;C0EoEpEoAI;C12oOpOoAUoKƼGƼøoCƼJƼþoĪɅoľɅoĿoTƼDƼNA;C2AoPƼBƼMAoYAoRApRAoLApLAqLAoVAo?pSApɱ;C3ChÄʬmяhƿAԋƀ+",
    "bR;C46sEtEsAI;C4AsOtOsAUhÄɉ;C55hѢhAI Ѣ;C58h&ƔoDZAoRRRA;C5DoNAKAý POLLU;C60oƀRwLLhӑbL;C66hčn$n:o[n@ԅ;C77h",
    "ÄSIDDHAMhFЕč ȅODDӶw$ ȅODDӶw: ȅODDӶx[ ȅODDӶw$ ȅ×Ӷw: ȅ×Ӷx[ ȅ×ӶhÄTUUMUaKAĿDAƗSPAC=ʄnʄnŮnǨnSIDDHAMi&AqAӕƀxL;",
    "C8EpEqEpAI;C92pOqOpAUpKӋӫҪA;CAӓpYApRAqRApLAqLA;CB5pԉ;CBCiÄʬnяiƿҭƀ+cR;CC6tEuEtAI;CCAtOuOtAUiÄɉ;CD5iѢiAI Ѣ",
    ";CDDi&NAKAý POLLUpFA;CE0pƀRxLLiӑcL;CE6Ӵӟ;CF1iÄJӿnԁ;DěMALéáƗȄŮ*qûRABĦUpŮpǨk&VEDîŮrAsӰrƀzL;D0ErEsErAI;D12r",
    "OsOrAUrKʠGʠørCʠJʠþrĪtHArľtHArĿrTʠDʠNAsĿrPʠBʠMArYArRAsRArLAsLAtLArVAr?sSAsArHArTĪkÄȔ ɉpCIRCЎɉpяkƿAvIwIvUw",
    "Uvƀ+eR;D46vEwEvAI;D4AvOwOvAUkÄɉk&ƛ REPHkÄPý;D54k&CHĎU MyYyLLLkAU ѢkFЕ$ $-HǍRED-û-ÕTIïxʹTIïtƕÅIïSt$ TWØIï",
    "yØHtƕTWØIïSt$ FIFTHk&ARДIIrƀRzLLkӑeL;D66kčq$q:r[q@ӤkЖrȈvМkFЕ$ ȇxĸtƕȇSt$ ҤxÅHtƕҤSkDƝÆk&CHĎU NNzyRRyLzLyK;",
    "D81aSINHŞƗʄnŮYAnǨYA;D85i&AǺqAǺqEǺrEǺpIǺqIǺpUǺqUǺpIRUǺsUǺqLUǺsUǺpEǺqEǺpAIǺpOǺqOǺpAUǺ;D9AqLPԧKAұKAӁGAұGAǺp",
    "KƦAJA NAASIKYépSAþKA GAӁCAұCAӁJAұJAǺpTAALUJA NAASIKYéxSANYOOGA NAAKSIKYépSAþKA JAӁĪұĪӁľұľǺqUURDHAJA NAǺp",
    "SAþKA ľӁTAұTAӁDAұDAǺpDƦAJA NAǺ;DB3pSAþKA DAӁPAұPAӁBAұBAǺrǺpAMBA BAǺpYAǺpRAǺ;DBDpDƦAJA LAǺ;DC0pVAǺpTAALUJ",
    "AǔǺpMUURDHAJAǔǺpDƦAJAǔǺpHAǺpMUURDHAJA LAǺpFAǺ;DCAiÄAL-LAKUNA;DCFiƿELA-PIĘtKETTI AEDA-PIĘtDIGA AEDA-PIĘtK",
    "ETTI IS-PIĘtDIGA IS-PIĘtKETTIǱA-PIĘ;DD6tDIGAǱA-PIĘ;DD8tGAEĪ-PIĘtKOMBUVAtDIGA KOMBUVAtKOMBU DEKAyVA HAA A",
    "ELA-PIĘ+fDIGA AELA-PIĘ+fGéNUKIĪtGéNUKIĪ;DE6iLITH čt$t:u[t@Һ;DF2iǋDIGA GAEĪ-PĎÓYANUKIĪiǟ KǍDũYA;E01aƧI ђʍ",
    "KOƞIqHO ƈIvUATvWAIvONtRAKH^pNGO NGUpCHO ŗNv,v^pSO SOpCHO CHOEpYO Y,pDO ŗDApTOǱTAKqHO ƧNtN^ŻTHOtPHUƧOpNO ",
    "NENpDO DEKpTOŲOqHO THŪvAHANvĥpNO NUpBO BAȍIpPO ɄqHO PHŪpFO FApPHO PHANpFO FANpPHOǔMPHAOpMOƨpYO YAKpRO RU",
    "AqUpLO L,qUpWO WAENpSO SŞsRUSIsSUApHO HIPpLO CHЍpO ^pHO NOKHUKpPAIYANNOIpSý ApMAI HAN-AKATpSý AAvMuIvIuU",
    "EwEvvUpPHINTHU;E3FgURRENCY ǢBAHTgHAȪʍSý EuAEuOuAIƨIMUAN+bŞIpLAKKH^YAOpMAIYAMOKsTAIKHUs EKtTHOuRItŗĪWApƧN",
    "ƧƈTpNIƄITpYAMAKKANpFĥƣfčl$l:m[l@Ԇfђʍ^ƈNKHUpKHOMUT;E81aLAO &KOmHO SŪ;E84pTAM;E86lPũ GHAlNGOlCOlPũ ŗlSOŲM;",
    "E8ClPũ JHAlNYOlPũ þqĪsHAqľsHAqĿlDOlTOmHO SŪpTAMlPũ DHAlNOlBOlPOmHO SŪlFOŲMlPHOŲMlFO SŪlPũ BHAlMOlYOlLO L",
    ",;EA5pOOT;EA7lWOlSANSKRIT ?vSAmO SŪlHO SŪlPũ ĘlOlHOŲMeґISeƿpMAIƞNpAAqMpIqIpYqYpUqUeÄPũ ɉeǋMAI KONeʀǋLOtN",
    "YO;EC0eǋEqIpOpAYqI;EC6eKO LA;EC8eT$ƨI EKnTHOoInCATAWAeCƷEĘŶeNIGGAHǰ;ED0ečk$k:l[k@ԇ;EDCeHO NOhMOe&KHMU GO",
    "qNYO;FěTIBETĜЄťOMiǣ GʍҾ TRUNCAT%Ó-ѸRNAM BCAD MƓGʍTåGƨnIƯI]Ҿ MDUNƨnЃ=Ҿ SGABƨoARET Ҿ PHUR ?DƨnҾ TåG ?DƨnSB",
    "RUL ?DnBSKUR ҾoKA- ɔG ҾnINÐЄîTåGnǳIMIʍTåG BǤn?DnNYIS ?DnTåG ?DnNYIS TåG ?DnRēCHķSPŪS ?DoGYA Ȏ ?DnɁET -DZ",
    "UD ҖȮ āCANnGʍTåGiLOGOTYPEƗŗD ҖwLHAG ҖiASȵ˷ÄSѐ GCĜ-CHǹҖ+a-KHYUD PÓSDĥ TǑGSiÄRǳ DKǹGCIGyNYISySUMsNAG GCIGx",
    "NYISsDKǹRǳ NAGӴӟoŐ$t:u[t@Һtщiǣ BSDUS ҖnøS BZŪ NYI ZLAnɁET -DZUD Җ BZHI MIG CANnøS BZŪ SGOR Җnù MGOnƔ -PH",
    "RUnGUG Җ GYONzASn^ KH^ GYONzASiÄYǹTåSnMǹTåSi&KҌGҌøpCҌJA;F49pԢҪӓpƔrHApDZArHApWApZHAqAp-AҬ?qSAq˚pApKSSApFI",
    "XED-ƃ RApKKApRRA;F71iƿҭƀ+cR+bL+cLtEuEtOuOiÄRJES SU øȊoNAM BCADiǋăI+dIiÄNYI ZLA NAA DAnSNA LDANiǣ HALƦAnP",
    "ALUTAiÄLCI ҖnY^ ҖnLCE Ɣ CANnMCHU CANnGRU CĜRGY,SrM%RGY,SnĠMCHU CANjUBɯ%ÄLCE Ɣ CANxMCHU CANxĠMCHU CANs&KѴ",
    "GѴøzCѴJA;F99zþzTǕbHAzľ+bHAzĿzTѴDѴNAzPѴBѴMAzƔ+bHAzDZA+bHAzWAzZHÓAz-AzYAzRAzLAz?+aSÓAzHAzAzKSSAzFIXED-ƃ WA",
    "+kYA+kRA;FBEiKU RU ƈr BZHI MIG CANiCдĘȿ şBƸ+aưBƸ+aC^ɽ-ȷSBUB -ŗLiǢDRILƬpRDO RJEpPADMA GDANpRDO RJE RGYA Ȏ",
    "pPHURǱpʜƬv NYIS -KHYILwGSѸ-KHYILwBZHI -KHYIL;FCEjIGN Rǳ NAG Rǳ DKARwGSUMiǣ BSKA- ɔG GI MGO RGYANnMþM YIG",
    " GI MGO RGYANnNYIS TåGnIƯI]BRDA RNY=Ҿ MDUNƨnЃ=BRDA RNY=Ҿ SGABƨaÁ-FAC=SVAƉÎ_-FAC=SVAƉÎÁ-FAC=SVAƉÍǗSa_-FAC",
    "=SVAƉÍǗSaTIBEȭÆ LEAD=MCHĜҖnĶIL=MCHĜҖÙěMYANMǹ&KӋqԢҪӓҬWApS˚pĘpAp?N AӕEpMŝEpOpAUiǋTĺ AAtAҭEtAItMŝIIxOtE*iÄŮ",
    "nʘnǨpȨAnASATiˏƗʵ]YƓRƓWƓHAi&GRƸǔӴӟiÄȚ ʮnʮjYMBOL LOCAT|pʗLETEDpAʹEȆI$DpGEƯ|i&?qSApƀyRxLyLiǋƀ+cR+bL+cLi&Mŝø",
    "tJHAtBBAvEiˏƗMŝʵ]NA+iMA+iLAi&SGAWƞRķ?iǋSGAWƞRķEUiT$Æ SGAWƞRķHATHI+dKE PHOi&WEʶN PWOƞRķƧ+hPWAiǋWEʶN PWOƞR",
    "ķEU+lUEiÄWEʶN PWOƞRķT$-1+k2+k3+k4+k5i&EAʶN PWOƞRķĿ+hYWA+hGHWAiǋGEBAƞRķItKéH OEzUzEEi&?NƞvHAuGAuCAuZAuþuD",
    "AuNAuPHAuFAuBAuƧuHAiˏƗ?N ʵ]WAiǋ?N AAyEz*yŚYiÄ?N T$-2x3x5x6sCOUNCIL T$-2+f3+aEMPHATîT$i&RUMAI PŞŪ FAiÄRUM",
    "AI PŞŪ T$-5jHĜčt$t:u[t@ҺjIGN ƈMTI T$-1z3iƿITŝÓIiǢ?N $uEXCá÷aGEORGąŋANyBANyGANyDONyENyVINyZENyȭyINyKANyLA",
    "SyƣyNARyONyƂyZHARyRAEySANyTARyUNyPHARyƈRyGHANyQARyëNyǻNzANyJILyCILzHARyXANyJHANyHAEzEzIEyWEyHARzOEÙC7yYN",
    "ÙCDyAENÙD0j&ANqBANqGANqDONqENqVINqZENqȭqINqKANqLASqƣqNARqONqƂqZHARqRAEqSANqTARqUNqPHARqƈRqGHANqQARqëNqǻN",
    "rANqJILqCILrHARqXANqJHANɅErErIEqWEɅRrOEqFIqYNqELIFIqèGANqñjPýʞ Ɉaʖ&GEORGąNARaGEORGą&AENqHğÍqLABIALÎH^UL ",
    "CHOSEĥ ŸqƏŸqNšqǴqƏǴqɐqɜqĽqƏĽrIOSrS^īqšGqȕqƏȕqCЋqрq˺qˈqƵqNš-ŸqƏNšqNš-ǴwĽqǴ-Ÿqɐ-NšqƏɐqɐ-Ƶqіɐqɜ-ĽqіɜqĽ-ŸwNš",
    "wǴwī+a-Ÿ+bǴ+bĽxS^īxIOS-ȕwȕxЋw˺wˈqіĽyƏĽqī-ŸvNšvǴvɐvɜvĽ+a-ŸvƏīvšGvȕwЋvрv˺vˈvƵqǻTUEUMīzS^īrEĥCԡMī+cS^īqҊqšG",
    "-ŸwǴwɜwĽwīwҊqƏšGqšG-ȕxЋw˺wˈqYESšGqȕ-šGrHITUEUMȕyƏȕrEĥCԡMȕ+bƏȕrЋ-рyƵtTUEUMCЋrEĥCԡMCЋqˈ-ĽqіˈqƏƵqYEOǽƵqŸ-Ǵq",
    "Nš-īwȕwƵqǴ-ɐqFĎERhJŪSEĥ FĎERrAsErYAtErEOsrYEOtrOrWAtErOErYOrUrWEOtsIrYUrEUrYIrIrA-OtUrYA-OuYOrEO-OuUuEUr",
    "YEO-OvUrO-EOutYEtOtUrYO-YAwEvEOuOuIrU-AuEtEO-EUtYEtUrYU-AuEOvuYEOwuUuIrEU-UuEUrYI-UrI-AtYAtOtUtEUtýEArýE",
    "Aw-EOxUxIrƏýEArA-EUrYA-UsEO-YArO-YAvEiĥSEĥ ŸrƏŸrŸ-īrNšw-ȕxƵrǴrɐw-ŸxɜxĽxīx˺xˈxƵrɜrĽw-īrīsS^īršGrȕsЋrрr˺rˈ",
    "rƵrŸ-ɐyī-ŸrNš-ŸxǴxīxҊx˺rǴ-Ÿyɐrɐ-Ÿ-īxNšxǴ+d-ƵrƏɐrɐ-ɜ-Ÿ+dīxĽ-ī+dƵxіĽxƏīxҊxрxYEOǽƵrɜ-ŸxɐxĽxīyS^īxҊxCЋxƵrіɜr",
    "Ľ-ɐxˈxƵrіĽrī-ŸwǴwɐwĽrҊršG-ŸxƏŸrƏšGršG-рrYESšGz-ī+aҊrˈ-ĽrіˈrƵ-NšxɐxɜxĽrYEOǽƵrŸ-NšyĽyCЋyрyƵrƏNšaïIOPîЄťHˮu",
    "AsLˮtWAsHH˜uWAsMˮtWAsSZ˜uWAsRˮtWAsSˮtWAtH˜uWAsQˮuAtWA;124AuIuAAuŉ;1250tH˜;1258uWA;125AԊ;1260sBˮtWAsVˮtWA",
    "sTˮtWAsCˮtWAsXˮuAtWA;128AuIuAAuŉ;1290sNˮtWAtY˜uWAsʉÓȷŔAÓEE+b+aO+aWAsKˮuAtWA;12B2uIuAAuŉ;12B8tX˜;12C0uWA;",
    "12C2Ԋ;12C8sWˮuAsPHARYNGE]ǂU+dI+dAǂEE+e+dO;12D8sZˮtWAtH˜uWAsYˮuAsDˮtWAtD˜uWAsJˮtWAsGˮuAtWA;1312uIuAAuŉ;13",
    "18tG˜uǁsTH˜uWAsCH˜uWAsPH˜uWAsTS˜uWAtZ˜vAsFˮtWAsPˮtWAsRYAsMYAsFYA;135DjȄGEȶ÷(Ю ѢtЮ ѢtGEȶAŶjɣŶjХʔjƠjĤjʀƑjƑ",
    "jPREЁ ƑjʣjPýʞ Ɉjʟ$p:q[p@ӦjЖrƐrǙq˼rɚq˽rуqÅYqѠqHǍREDqĀÑ;1380jЄťSEBATBEIT MWAsMWIuŉsSEBATBEIT BWAsBWIuŉsSEB",
    "ATBEIT FWAsFWIuŉsSEBATBEIT PWAsPWIuŉjTON]ǣ YIZETuDERETuRIKRIKuŹRIKRIKuDIFATuKENATuǻRETuHɢTuDERET-HɢTuKUR",
    "T;13A0aùROKEE &AqEqIqOqUqVqGAqKAqGErIrOrUrVɅӔVqLAӔVqMArErIrOrUqNAqHNAqNAHӔVqQUҜsVqSArӔVqDAqTAqDEqTEqDIqT",
    "IqDOrUrVrLAqTLҜsVrSҜsVqWAӔVqYAӔVqMV;13F8~YөMV;1400bANADąЄICS зtEtAAItIuItOuOtY˪OOҢEE+bItAuAtWEvST˪WEuIuţ",
    "˪WIuIIuţ˪WIIuOuţ˪WOuOOuţ˪ʕүʕtWAuţ˪WAuAAuţ˪ǁүǁtAItY˪WtʉɗtŚǖzözɴŐR,zǏŐR,z.ŐR,+bNGz>ǖ+gŹȻSzȫŨzŹĞðzǲzÈȹtENtI",
    "NtONtANtPәPOOҢHEE+cItPӂPWEtPWIĆPWItPWIIĆPWIItPWOĆPWOtPʕĆPʕtPWAĆPWAtPǁĆPǁtY˪PǁtPĆPҢHtTәTOOҢDEE+cItTӂTWEtT",
    "WIĆTWItTWIIĆTWIIt:Ć:t:OĆ:OtTWAĆTWAtTǁĆTǁүTǁtTuTEvIvOvAtKәKOOtKӂKWEtKWIĆKWItKWIIĆKWIItKWOĆKWOtKʕĆKʕtKWAĆK",
    "WAtKǁĆKǁүKǁtKuWtSǀ-SLAVEY KEH+hIH+hOH+hAHtCәCOOtCӂCWEtCWIĆCWItCWIIĆCWIItCWOĆCWOtCʕĆCʕtCWAĆCWAtCǁĆCǁүCǁtC",
    "һTHtMәMOOtMӂMWEtMWIĆMWItMWIIĆMWIItMWOĆMWOtMʕĆMʕtMWAĆMWAtMǁĆMǁүMǁtMĆMtMHtɝPASCĜMһMtNәNOOtNӂNWEtNWAĆNWAtNǁ",
    "ĆNǁүNǁuҢNGtNHtLәȀtLӂLWEtLWIĆLWItLWIIĆLWIItLWOĆLWOtLʕĆLʕtLWAĆLWAtLǁĆLǁtLĆLtʵ]LtSәSOOtSӂSWEtSWIĆSWItSWIIĆS",
    "WIItSWOĆSWOtSʕĆSʕtSWAĆSWAtSǁĆSǁүSǁtStɝPASCĜStSWtǐFOOT StMOOSE˪SKүSKW+c-W+cPWƘTWƘKWƘCWAtåvIwIvOwOvAwAvWEĆ",
    "SHWEtSHWIĆSHWItSHWIIĆSHWIItSHWOĆSHWOtSHʕĆSHʕtSHWAĆSHWAtSHǁĆSHǁtSHtYEuAԟu˪YOOuӂYWEtYWIĆYWItYWIIĆYWIItYWOĆ",
    "YWOtYʕĆYʕtYWAĆYWAtYǁĆYǁүYǁtYtBIBLE˪YĆYһYItREu˪REĆLEtRAԟĆLOtRAvAĆLAtRǁĆRǁtRĆRtʵ]RtFEuAԟuAvAuǁĆFǁtFtÌtN˪Ìt",
    "THItN˪THItTHIItN˪THIItTHOwOvAwAvǁĆTHǁtTHuÌwIwOwAwuYEvIvOvAtƋAVIK HE+cI+dI+cO+dO+cǂƘyUT HtHKtQAԟuAvAutTLH",
    "EwIwOwAĆRE+eI+eO+eAtøAIvIwIvOwOvAwAvuNGһå+cI+cO+cAtʕDS˪Ì+gI+gO+gA+gtLHIwIvOwOvAwAvtTH˪Ì+dI+eI+dO+eO+dƓǂt",
    "AIVILIK BtǐFOOT E+dI+dO+dǂWE+eI+eO+eǂNE+eI+eO+eǂKE+eI+eO+eAһHE+bI+bO+bAҢGHѫbRӲWӲHWѫbTHѫcTѫbPU+cԠ+cƘ+bGӲK",
    "HѫcKѫd+bNӲMӲYӲJUһJUҢJԠһJIҢJƘJѫbLӲDLѫbLHѫbTLHU+eO+eE+fE+eI+eǂѫbZU+cԠ+cƘ+bIƯI]Z+bDZѫbSU+cԠ+cƘHѫd+bTSѫbCHѫb",
    "TTSU+eO+eE+fE+eI+eAuHIÍtƠtQAItøIuNGIxIwOxOwAxAtʕDS˪THWEE+hI+iI+hO+iO+hA+iƓŚTHtǐFOOT WaOGHAM ʔÆg&BEITHnLU",
    "ISnFǌNnSAILnNĩnUATHnDǃnTINNEnCOLLoEIRTnMUINnGORTnNGEADALnSĶIFnRUISnAILMnONNnURnEADHADHnIODHADHnEABHADHnO",
    "RnUĎEANNnIFINnEAMHƷHOLLnPEITHgFEAÌRÆgăFEAÌRÆ;16A0aRUN˫FEHU FEOH FE FnVnURUZ UR UnYRonWnTHUɀAZ THURS Tƫnï",
    "nANSUZ AnOS OnAC AoESCnԈOSS OӌOSS OnOoEoNnRAIDO RAD REID RnKAUNAnCENnKAUN KnGnƚnGEBO GYFU GoARnWUNJO WYN",
    "N WnHAGLAZ HpEGL HnԈHAGĺ HӌHAGĺ HnNAUDIZ NYD NAUD NӌNAUD NnƛTED-NnISAZ IS ISS InEnJERĜJnGERnԈǹAEӌǹAnIWAZ",
    " EOHnġTHO PEORTH PnALGIZ EOLHXnSOWILO SoIGEL ԈSOL SoǮT-TWIG-SOL SnCnZnTIWAZ TIR TYR TӌTYR TnDnBERKANĜBEO",
    "RC BJARKĜBӌBJARKĜBnƛTED-Pnʎ-PnEHWAZ EH EnMAĿZ MĜMnԈMADR MӌMADR MnLAUKAZ ȐU LOGR LnƛTED-Ln,WAZqnDAGAZ DAE",
    "G DnOƧLĜEÌL OnǌnIORnCWEORTHoALCoEALCnSȭnԈYRӌYRnɿLûIC-YRnQnXgЂǟg˥E ǟgĢ ǟgARLAUGċgTVȍDURċgBELGTǮċg&KnSHnOO",
    "nFRANKS CASKET OS+bISɾH+bAC+cESC;17ěTAGALOG &ApIpUpKApGApøpTApDApNApPApBApMAҬWApS˚iǋItUiÄɉnPAMUDPOD;171F",
    "i&ARДRAaHAƋOO &ApIpUpKApGApøpTApDApNApPApBApMAҬWApS˚iǋItUiÄPAMUDPODaPHILIPPǡ Ђǟl>ǟ;1740aBUHID &AnInUnKAn",
    "GAnønTAnDAnNAnPAnBAnMAnYAnRAnLAnWAnSAnHAgǋIrU;1760aTAGBANWA &AqIqUqKAqGAqøqTAqDAqNAqPAqBAqMAqYA;176EqLAq",
    "WAqSA;1772jǋIuU;1780aKHMç&KɱoOoHOnNGOnCɱoOoHOnNYOnDAnTƧnDOnTTHOnNNOnTɱoOoHOnNOnBAnPHAoOoHOnMOnYOnROnLOnV",
    "On?oSOoAnHAnLAnQAgĦEPƌØ Ю QAQ+aAzŔIzȷK+aU+bVyRY+aYyLY+aYyQEzAIzOO TYPE $+h:zAUgЮĬHERØ AQwAmÄAArIsIrYsYrU",
    "sUsArOErYArIErErAEsIrOOrAUgÄNIKAHITlǅHMUKlYUUKŴAPINTUlMUUSIKATOANlżISAPlBƦOClROBATlTOɼKHIATlKAKABATlAHSD",
    "AlSAMYOKǔNþlVIRIAMlCOƚlBɝMASATlƈNlĝIYOOSANlCAMNUC PII KUUHlLEKʺOlBEYYALlPHNAEK MUANlKOOMUUTgCURRENCY ǢRI",
    "ELgÄAVAKRAHASAþmTƧCAN;17E0gčm$m:n[m@ӧ;17F0gǢLEK AĪK SONxMUOYxPIIxBEIyUONxPȨ+b-MUOY+cPII+cBEI+dUON;18ěMĥO",
    "LąBIRGAkґISkĤkƠkƑk@ɑkTODO Г зkSIBE ЄťBūARYÆERkMƷHU ĤrƠkNIRUGUkFREE ʐĹSŬCś $+i:+j[kЮ ɈkFREE ʐĹSŬCś @kčq$q",
    ":r[q@Ӥ;1820k&AӔOErUErEErNAr^rBArPArQArGArMArLArSʠTArDArŗrJArYArRArWArFArKʠƔrZArHAArZRArLHArZHIrǻrTODO āЮ",
    "ÍwEwIwOwUwOEwUEw^wBAwPAwQAwGAwMAwTAwDAwŗwJAwƔwYAwWAwKAwGAAwHAAwJIAwNIAwDZArSIBE EwIxYwUExw^wKAwGAwHAwPAw",
    "?wTAwDAwJAwFAwGAAwHAAwƔwZAwRAAwŗwZHArMƷHU IyKAyRAyFAyZHArŗ!ƅ;1880rũ Gũ Ů $+aǨ $+aDAMARȷUBADAMÓĠUBADAMÓBA",
    "LUDÓƕBALUDÓÓŔKÓNGÓCÓTTƘHÓDDÓNNÓTÓDÓPA+bHÓSSÓZHA+bÓAHrTODO ũ Gũ ǕfZHArMƷHU ũ Gũ GHA+hø+hCA+hJHA+hTǕhDDHA+",
    "hǕhDHA+hSSA+hCYA+hZHA+iArũ Gũ ŐU+fYArMƷHU ũ Gũ BHArũ Gũ DAGALGArMƷHU ũ Gũ LHA;18B0aCANADąЄICS OYtAYuAYtɊ",
    "tPOYuAYuWOYtTAYtKAYuɊtMAYtNOYuAYtLAYtSOYuAYuHOYvAYvWOYtYOYuAYtRAYtNWItOJIBɊ NWItNWIItOJIBɊ NWIItNWOtOJIB",
    "Ɋ NWOtNʕtOJIBɊ NʕtRWŉIwIvOwOvAtOJIBɊ P+bT+bK+bC+bM+bN+bS+cHtEAʶN WtWEʶN WtŚ/R,z˱ƛtR˪RWEĆȀ+eAAtTHWEwAuTHW",
    "EwOOwAAuLHWEwOOһSHWE+cOO+aHOOҢGWU+bDENE GEE+bGAƘWAһJUUҢJWAtBEAVçDENE L+fRҢDØ]S;19ěLIMBU Ю-ɁRIçLETÐg&KȦGȦ",
    "ønCȦJȦYANnTȦDȦNAnPȦBȦMAnYAnRAnLAnWAn?oSAoAnHAnGYANnĶ;1920gƿrIrUrEErAIrOOrAUrErOgǥɯ%&YAxRAxWA;1930hMĺ &KA",
    "tøtŮtTAtNAtPAtMAtRAtLAhIGN MUKPHRƚlKEMPHRƚlSA-I;1940lȀ;1944g˶gʣgčm$m:n[m@ӧaTAI ť&KAoXAoøoƔoSAoYAoTƼLAoPƼ",
    "MAoFAoVɱoQAoƈoT?oNAoAoIoEEpHoUoOOpoUEoEoAUEpI;1970oT$-2t3t4t5t6;1980aNEWŲI LUE &ơQAtŀQAtơKAyXAyøtǒƞxXAxø",
    "tơƔySAyYAtŀƔxSAxYAtơTAzHAyNAtǒŲyHAxNAtơPAzHAyMAtǒǱyHAxMAtơFAyVAyLAtŀFAxVAxLAtơHAyDAyBAtŀHAxDAxBAtơKVAyXV",
    "AtŀKVAxXVAtơSUAtŀSUA;19B0mǋЮ SǮĀERxAAxIIxUyUxExAExOüUExAYyAYxUYxOYyAYxUEYxIYm&ŚVzNG+azMzKzDzBmT$Æ-1w2;19",
    "D0mčs$s:t[s@ԑmƧM ʟ$;19DEmÄLAEuVaKHMçǢPɝMASATnMUOYџnPIIџnBEIџoUONџnPȨџr-MUOYџsPIIџsBEIџtUONџnDAPџq-MUOYџr",
    "PIIџrBEIџsUONџrPȨџnTUTEYASATnMUOYȊCnPIIȊCnBEIȊCoUONȊCnPȨȊCr-MUOYȊCsPIIȊCsBEIȊCtUONȊCnDAPȊCq-MUOYȊCrPIIȊC",
    "rBEIȊCsUONȊCrPȨȊCaBUGǡSE &KAqGAqøsKAqPAqBAqMArPAqTAqDAqNArRAqCAqJAqþsCAqYAqRAqLAqVAqSAqAɅjǋIuUuEuOuAE;1A",
    "1EjPAĘWAjʯʮaTAI ƧM &ơKAwHAwXAǪKAvXAvHAqøȲCAwHAǪCAuSAuŗqþqRATAȲRɝqDAǪRɝqRANAȲTAwHAǪTAvHAqNAqBAȲPФFAǪPAuFA",
    "uPHAqMAǪYAȲYAqRArUEqLArUEqWAȲ?wSAwAvHAqĘqAǪHԌqEEqOOqLAEqGRƸǔjˏƗʵ]RA+fLAyLA T^ LAIjÄMAI K^ LAIjˏƗŚøyǒǱyơR",
    "ɝđǒǱyMAyBAySA;1A60jÄSAKOTjƿuMAIǔTuAAuTĺ AAuIvIuUEvUEvvUuOvAÊvYuEuAEuOOuAIuƧM AIuOA*jÄMAI K^oT$-1t2oKHUķT",
    "$-3z4z5oRA HAAMoMAIǔMoKHUEN-LUE KýN;1A7FjȄҹƛjǮA ču$u:v[u@ӣ;1A90jƧM ču$u:v[u@ӣ;1AA0jÄWI^tǁKoSAWANoKEOWoHO",
    "YoDOKMAIoăҚRANAoMAI YAMOKoKAANsKUUoSATKAANvKUUoH^oCA^;1AB0aȄĕD АǵlIAEıIS-R,kINFIƯYkʱkǝƛkX-XŰWIGGLY äŰʎÆŰ",
    ">ʎÆŰưеRũZAĹðŰʏĥ еRũZAĹðŰƂENÌSES*k>ƂENÌSES*kƂENÌSESÊwßѝŠ/&WÊ+dèWÊlEFT ƺ* _k.ƺ* Ák<ƺÊ _k.ƺÊ ÁkɩS*kˆERÍ*kĠ>",
    "ARCH*kǲÍ*k>ǲÍ*+bȏkǝǖǵkŠ/&бG+lR+lT;1BěBAäSEƗULU RɿMsѦoCECEKoSUR^oBISAHj&AKývɽDŪqIKývɽDŪqUKývɽDŪqRA REPAxɽ",
    "DŪqLA LEøyɽDŪqEKýqAIKýqOKývɽDŪqKAsԂGAs GORAqøqCAs LACAqJAs JERAqþqTA LATIKtMURDAԂDA MURDA ALPAPRANAzMAHA",
    "PRANAqNA ȨBATqTAsŲWAqDAsƨDUqNAqPAsƞPALqBAs KEMB^qMAqYAqRAqLAqWAqSAǔGAvPAsɅjÄREREKANjǋTEDŪuULUxǔRIuSUKUy ",
    "ILUTuRA REPA+bɽDŪuLA LƚƘɽDŪuTAL,+a REPA+bTEDŪ+bREPAɽDŪuPEPETzɽDŪjADEG ADEGj&ɟǔSAKrHOTǔSAKqTZIRǔSAKqEFǔSA",
    "KqVEǔSAKqZ]SASAKqASYURAǔSAKrRДJþ;1B50jčp$p:q[p@ӦjPдlMADAjWĦUjɁIKǱMŪKAHpSIKIpƂERENjPAMENƚjѡ]ǢDĥzƚzŪz^+c S",
    "UR^z,zAƚzEŪzA,+aNG GEDEyȄTEGEH+iƌEP+iKEMPUL+mLI+iJEGOGAN+iKEMPUL!JEGOGAN+mLI!JEGOGAN+iBƌE+iGĥyÁ-ĳ ĖDUG+p",
    "AG+jȺTUK+rAKy_-ĳ ĖP^+oŪ+iȺɄK+rUK+iĖP,jPд LƦ^lMADA LƦ^;1B80aSǍANESEÍǱNYECEKsGLéRtWISADk&ArIrUrAErOrEsUrKA",
    "rQArGArørCArJArZArþrTArDArNArPArFArVArBArMArYArRArLArWArSArXArHAkˏÍǱM,KȉbþKRǂIKUkǋP^HULUyYUKUyAELAƚyOLĥx",
    "MEPETxNEULEŪkÄPAMAAEHpɉkˏÍǱS^ANƨ+iWAk&ƈrSYAkčq$q:r[q@Ӥkяk&REUrLEUrBHArŚKxMaBATAK &Ҹ AnHҸ HAnMɼIL=HAnBAnK",
    "ARO BAnPҸǱnNAnMɼIL=NAnWҸ WAnPAKPAK WAnGҸ GAnJAnDAnRҸ RAnMҸƨoǀERNŲnʜÌRNŲnSAoȍLŪUNǔnMɼIL,ǔnYҸ YAnønLҸ LAnþ",
    "nCAnNDAnMBAnInUgÄTOMPIgǋErPAKPAK ErEErIrKARO IrOrKARO OrUs ȅSȍLŪUNǔgˏƗNGvHgP^OLATjĥONAN;1BFCgǢBĦU NAȮTEK",
    "tPINARBORAStJUDULtP^OLATaLEPŗ &KApLƼGApLAoøoCƼJAoþoTƼDAoNAoPApLƼFApLAoBApLAoMApLAoƔɅoDZAoYAoRAoLɱpLAoVAo",
    "SƼWAoAhǥɯ%&YAyRAhƿAsIsOtOsUtUsEhˏƗKwMwLwNwPwRwTwNYIN-DOwK^hÄRANmʬ;1C3BhǟŲ-ROLtNYET THYOOMŲ-ROLtCER-WAtTS",
    "Ċ CER-WAzhčn$n:o[n@ԅ;1C4Dh&ĪɅoľaOL ǻKI čp$p:q[p@Ӧj&LAqATrGrNGrLqLAAqAAKsJsMsWqLIqISrHrNYrRqLUqUCrDrNNrYq",
    "LEqEPrDDrNrRRqLOqOTTrBrVrHjMU TTUľGjGAAHLAA TTUľAGjMU-GAAHLAA TTUľAGjRELAAjPHAARKAAjAHADjǟ MUCAADv>MUCAA",
    "DaCѵ/&Rū%VEwLĥ-LEGG%DEwNÛ OwWɢ ESwTĺɽx[-LEGG%TExĺ HğÍ+bYATwUNBLƌ%UK;1C90aGEORGąMTAVRULI ŋAN+hBAN+hGAN+hD",
    "оhEN+hVIN+hZEN+hȭ+hIN+hKAN+hLAS+hƣ+hNAR+hоhƂ+hZHAR+hRAE+hSAN+hTAR+hUN+hPHAR+hƈR+hGHAN+hQAR+hëN+hǻN+iAN+h",
    "JIL+hCIL+iHAR+hXAN+hJHAN+hHAE+iE+iIE+hWE+hHAR+iOE+hFI+hYN+hELIFI+hèGAN+hñ;1CBD+iEN+hHğÍ+hLABIALÎSǍANESE ",
    "ǟ BĦU SURYƘP^Lĥ+dURNAMƘCAKRƘLEUǔT^ƘKAǔT^ƘDAǔT^ƘBAǔT^A;1CD0aVEDîT$ƞR?NAl?RAlPRENƈgÄNIHSHVASAlYAJURVEDîMID",
    "ȡSVARǰgT$ YAJURVEDîAGѐVAT%ĦӺwĦӺwKɝKA ĦӺlѦÊlYAJURVEDîKɝKA ĦӺ SCHROEDERl>SVARǰlǝSVARǰlKɝKA ANUDAĪlʘlƅÊm[ɑÊ",
    "lRIGVEDîKêMIRI ĦӺlɝRVAVEDîĦӺgÄǨ SVARǰtUDAĪlăǨ UDAĪlǨ ANUDAĪlăǨ ANUDAĪlǨ UDAĪ˅tANUDAĪ˅lŮ ƦARGOMUƈuBAHIRGO",
    "MUƈuVAMAGOMUƈ+f˅lTIRYAKlHEXIƃ āŮlāŮlRTH^ āŮlŮ UBHéTO MUƈmRDHAǨlҚğHAǨgT$ Ѧ*gÄJӿlԁlATIKȨAgT$ R,*l>R,*gÄ>Ů ",
    "ƦARGOMUƈȜěŠɵƘE#èAEgɵĝR%B+bC+bD+bï+c#èĖȩIgɵJ+bK+bLÔ+bM+băN+bO+cPķO#ƖɊS O+dPķO+dÔtèOEgɵOU#ǏŐOtɴŐOgɵP+băR+b",
    "èR+c+bU#ƖɊS U+cDIAEıIZ%U+cèMgɵV+bW+bZɾZHnӞ%LARYNGE]SPIRƦnñaʳɵGƒ+báDA+bPI+bʈ+bPSIaCѵɵELaʖ&õAzEyBzARR%ByDy",
    "EyăEyGyHyIyJyKyLyMyNyăNyOzUyPyRyTyUyWq/AwèAwɞwèAEwBwDwEwSCHWAwĖEwèĖEwGwèIwKwMwƚwOxPķOwǏŐOwɴŐOwPwTwUwƖɊS ",
    "UwèMwVwñwBǯwʳGƒwǳTAwʳPHIwǻaŠǥɡ/&I+dR+dU+dVaʳǥɡ/&BETǂGƒ+dʈ+dPHI+dǻaŠ/&UEtB!ËÒtD!ËÒtF!ËÒtM!ËÒtN!ËÒtP!ËÒtR!",
    "ËÒ+aFãĊ(ËÒtS!ËÒtT!ËÒtZ!ËÒtèGaʖ&CѵENaŠ/&бGtTH!SżKïROUGHmŋIÔm&ȥÔtPÔmŋUÔm&UȋÔtBʴtDʴtFʴtGʴtKʴtLʴtMʴtNʴtPʴtRʴ",
    "tSʴtćʴtVʴtXʴtZʴtA!ǧuLPHA!ǧtDò(ǓtE!ǧtĖE!ǧtăĖE!ǧtSCHWA!ǧtI!ǧtĖO!ǧtć!ǧtU!ǧtEZH!ǧaʖ&/èɞwCx!ɓwïwăĖEwFwƛЫJÔwɡG",
    "wèHwIÔxOTAwõI+fÔwJӅwL!ǧ+dPŞT]ĊwõLwMòwèM!āLEGwN!<Ċ+dǧwõNwĝR%OwPHIwSòwćwTʴwUŢxȋwõUwVòwèVwZx!ǧ+dɓwEZHwTHǯaȄ",
    "ȽöǵrǖǵkSNAKEÊlUSPENSĩÆkĂ-ǖkö-ĂkĂ-ökǖ-Ăkö-ǖ-ökǖ-ö-ǖkŠ/&RŰļ-ĂkĂ-ļk>А*kOG$K*kZIGZAGŰISŰUR*lS*kŠ/&FLATĀ%ĖA*+",
    "dAE+eO+eV+dC ʇ+dбD+dï+dGqɵGq/&K+dLqɵL+lMq/&NqɵN+lRq/&RȊTǍǂS+dāS+dZ+dɞ+dB+eETǂSCHWǂF+dL!>ËÒ+dO!ưеRũZAĹð+d",
    "P+dć+dU!ưеRũZAĹð+dW+dAů+dOů+dUůkUPȹ*kKAVYKA* Áx_kʌ _kWɢ ĠBRIDGEŰʘ _lŬŶlOUфĠļŰхȑŰ_ʛ*kÁʛ(ÈʛÊaŠŋA!R,Ê#A!R,Ê",
    ")BĒ#BĒ)Bō#Bō)Bт#Bт)C!ʇɧ#C!ʇɧ)DĒ#DĒ)Dō#Dō)Dт#Dт)D!ʇ#D!ʇ)DĨÊ#DĨÊ)E!Ă(ö#E!Ă(ö)E!Ăɧ#E!Ăɧ)EĨÊ#EĨÊ)E!ÒÊ#E!ÒÊ)E",
    "!ʇ(ļ#E!ʇ(ļ)FĒ#FĒ)G!Ă#G!Ă)HĒ#HĒ)Hō#Hō)Hů#Hů)H!ʇ#H!ʇ)H!ļÊ#H!ļÊ)I!ÒÊ#I!ÒÊ)Iůɧ#Iůɧ)Kʋ#Kʋ)Kō#Kō)Kт#Kт)Lō#Lō)L",
    "ō(Ă#Lō(Ă)Lт#Lт)LĨÊ#LĨÊ)Mʋ#Mʋ)MĒ#MĒ)Mō#Mō)NĒ#NĒ)Nō#Nō)Nт#Nт)NĨÊ#NĨÊ)O!Òɧ#O!Òɧ)O!Ò(ˋ#O!Ò(ˋ)O!Ă(ö#O!Ă(ö)O!Ă",
    "ɧ#O!Ăɧ)Pʋ#Pʋ)PĒ#PĒ)RĒ#RĒ)Rō#Rō)Rō(Ă#Rō(Ă)Rт#Rт)SĒ#SĒ)Sō#Sō)Sʋ(ʌ#Sʋ(ʌ)S!CAŦ(ʌ#S!CAŦ(ʌ)Sō(ʌ#Sō(ʌ)TĒ#TĒ)Tō#",
    "Tō)Tт#Tт)TĨÊ#TĨÊ)UůÊ#UůÊ)U!ÒÊ#U!ÒÊ)UĨÊ#UĨÊ)U!Òɧ#U!Òɧ)U!Ă(ˋ#U!Ă(ˋ)V!Ò#V!Ò)Vō#Vō)W!ö#W!ö)Wʋ#Wʋ)Wů#Wů)WĒ#WĒ",
    ")Wō#Wō)XĒ#XĒ)Xů#Xů)YĒ#YĒ)ZĨ#ZĨ)Zō#Zō)Zт#ZтtHтtTůtW!R,*tY!R,*tA!.ŐR,tāSĒ+gIɷ]ð+fơð)?RP S#ǳTA)Aō#Aō)Aò*#Aò",
    "*)AĨɧ#AĨɧ)AĨ(ö#AĨ(ö)AĨЩ*#AĨЩ*)AĨ(Ò#AĨ(Ò)AĨ(ʘ#AĨ(ʘ)A!ļɧ#A!ļɧ)A!ļ(ö#A!ļ(ö)A!ļЩ*#A!ļЩ*)A!ļ(Ò#A!ļ(Ò)A!ļ(ʘ#A!",
    "ļ(ʘ)Eō#Eō)Eò*#Eò*)E!Ò#E!Ò)EĨɧ#EĨɧ)EĨ(ö#EĨ(ö)EĨЩ*#EĨЩ*)EĨ(Ò#EĨ(Ò)EĨ(ʘ#EĨ(ʘ)Iò*#Iò*)Iō#Iō)Oō#Oō)Oò*#Oò*)OĨ",
    "ɧ#OĨɧ)OĨ(ö#OĨ(ö)OĨЩ*#OĨЩ*)OĨ(Ò#OĨ(Ò)OĨ(ʘ#OĨ(ʘ)O!ƫɧ#O!ƫɧ)O!ƫ(ö#O!ƫ(ö)O!ƫЩ*#O!ƫЩ*)O!ƫ(Ò#O!ƫ(Ò)O!ƫ(ʘ#O!ƫ(ʘ)",
    "Uō#Uō)Uò*#Uò*)U!ƫɧ#U!ƫɧ)U!ƫ(ö#U!ƫ(ö)U!ƫЩ*#U!ƫЩ*)U!ƫ(Ò#U!ƫ(Ò)U!ƫ(ʘ#U!ƫ(ʘ)Y!ö#Y!ö)Yō#Yō)Yò*#Yò*)Y!Ò#Y!Ò)ȫ-",
    "WELSH LL#ȫ-WELSH LL)ȫ-WELSH V#ȫ-WELSH V)Y!ȀP#Y!ȀPaʳ/&ɞ!Љ+e˸+eŃƽełƽeŃģ+ełģ+eŃƲ+ełƲ)ɞ!Љ+g˸+gŃƽgłƽgŃģ+głģ+g",
    "ŃƲ+głƲ#Eȋ!Љ+g˸+gŃƽgłƽgŃģ+głģŌ18)Eȋ!Љ+i˸+iŃƽiłƽiŃģ+iłģŌ20#ǯ!Љ+c˸+cŃƽcłƽcŃģ+cłģ+cŃƲ+cłƲ)ǯ!Љ+e˸+eŃƽełƽeŃģ+e",
    "łģ+eŃƲ+ełƲ#ȥ!Љ+d˸+dŃƽdłƽdŃģ+dłģ+dŃƲ+dłƲ)ȥ!Љ+f˸+fŃƽfłƽfŃģ+fłģ+fŃƲ+fłƲ#Т!Љ+g˸+gŃƽgłƽgŃģ+głģŌ48)Т!Љ+i˸+iŃƽi",
    "łƽiŃģ+iłģŌ50#Uȋ!Љ+g˸+gŃƽgłƽgŃģ+głģ+gŃƲ+głƲŌ59)Uȋ!˸Ō5B+n(ʐŌ5D+sģŌ5F+sƲ#Ȃ!Љ+e˸+eŃƽełƽeŃģ+ełģ+eŃƲ+ełƲ)Ȃ!Љ+g",
    "˸+gŃƽgłƽgŃģ+głģ+gŃƲ+głƲ#ɞ!ƽeģtEȋ!ƽgģuTA!ƽcģtȥ!ƽdģtТ!ƽgģtUȋ!ƽgģtȂ!ƽeģŌ80tɞ!ЉȾ+e˸Ⱦ+eŃʐȾ+ełʐȾ+eŃģȾ+ełģȾ+eŃƲ",
    "Ⱦ+ełƲȾ)ɞ!Ńʊ+głʊ+gŃʐ(ʊ+głʐ(ʊ+gŃģ(ʊ+głģ(ʊ+gŃƲ(ʊ+głƲ(ʊ#ǯ!ЉȾ+c˸Ⱦ+cŃʐȾ+cłʐȾ+cŃģȾ+cłģȾ+cŃƲȾ+cłƲȾ)ǯ!Ńʊ+ełʊ+eŃʐ(",
    "ʊ+ełʐ(ʊ+eŃģ(ʊ+ełģ(ʊ+eŃƲ(ʊ+ełƲ(ʊ#Ȃ!ЉȾ+e˸Ⱦ+eŃʐȾ+ełʐȾ+eŃģȾ+ełģȾ+eŃƲȾ+ełƲȾ)Ȃ!Ńʊ+głʊ+gŃʐ(ʊ+głʐ(ʊ+gŃģ(ʊ+głģ(ʊ+",
    "gŃƲ(ʊ+głƲ(ʊ#ɞ!VȪHY+eĂ+eʐȾ+eԏ+eģȾŌB6+eƲ+pȾ)ɞ!VȪHY+gĂ+gƽgģ+gʊgKOŦISgʊhSILIhEɀPOMENIgѬ(Ʋ#ǯ!ʐȾ+cԏ+cģȾŌC6+cƲ+",
    "nȾ)Eȋ!ƽiģwTA!ƽeģ+eʊgŃʐqģqƲ#ȥ!VȪHY+dĂ+dѬ(ƽrģŌD6+dƲ+dѬ(Ʋ)ȥ!VȪHY+fĂ+fƽfģŌDDgłʐqģqƲ#Uȋ!VȪHY+gĂ+gѬ(ƽuģtʈ!Љ+c˸",
    "tUȋ!Ʋ+gѬ(Ʋ)Uȋ!VȪHY+iĂ+iƽiģvʈ!˸gѬ(ʐuģgʐŌF2#Ȃ!ʐȾ+eԏ+eģȾŌF6+eƲ+pȾ)Т!ƽiģxEGA!ƽgģ+gʊgģg˸"]

/-- Further names of characters, controls among them. -/
def otherNames : List String :=
  [";0aNULL;0daǤTàŷ,;1bOHbTARTųɽXT;2cXaʯTEXT;3bTXbNDàĶNSMISSĩ;4bOTbNQUIRY;5daACKNOWLEDGE;6dbLERT;7aBELbACKʔ;",
    "8bSaђÐŲBUL÷;9aƢŲBUL÷;9bT;9aTABaȡFEED;AaNEW ä;Aaʯä;AbOL;AaLF;AaNLaäŲBUL÷;BaǠŲBUL÷;BbTaƃ FEED;CbFaɁRIƙ REБ",
    ";DbRaëFT Ʃ;Eaˌ,-ëFT $;EaSObHIFTĬ;Faˌ,-ëFT щ;FaSIaDATA LINK ESCAPEÙbLEbӽ$ÜbC1bӽ:;12bC2bӽT[;13bC3bӽ@;14bC4",
    "aЗ| ACKNOWLEDGE;15bAKaSYNCHŦOUS IDLE;16daʯĶNSMISSĩɃ;17bTBaCƷEL;18daʯʵUM;19bOMaǥƉTUTE;1AdaESCAPE;1BdƭƃAĹɈ",
    " @;1CaFIťɈ;1CbSƭƃAĹɈ T[ȜaGROďɈȜbSƭƃAĹɈ :;1EažORD Ɉ;1EbSƭƃAĹɈ $ŌaUƯ ɈŌbSaSP;7FaDŬTE;7FdaPADD=ђÐ;80daơOCTE",
    "T PREʨ;81bOPaBǅK ġMITT%HERE;82bPHaNO BǅK HERE;83bBHaź;84daNEXT ä;85cLaǤTàSŬCT%Aǅ;86bSAaʯSŬCT%Aǅ;87bSAaђÐ",
    "ŲBЍĹʨ;88aƢŲBЍĹʨ;88bTSaђÐŲBUL÷!JUƉFIC÷;89aƢŲBUL÷!JUƉFIC÷;89bTJaäŲBЍĹʨ;8AaǠŲBЍĹʨ;8AbTSaƂTI]ȡа;8BnÈ;8BbLDbA",
    "RTI]ȡȯWğ;8CnUP;8CbLUaЌȡFEED;8Diź;8DbIaЂëFT :;8Eg-ëFT-2;8EbS2b,ťëFT T[;8Fg-ëFT-3;8FbS3aDӽʏ,;90bCSaPRIVƝ U",
    "SE $;91l-1;91bU1bRIVƝ USE :;92l-2;92bU2aʨ ĶNSMIT STƝ;93bTSaCƷEL ђÐ;94bCHaMESSƙ WAIT,;95bWaǤTàGUğ%Aǅ;96jƜ",
    "TECT%Aǅ;96bPAaʯGUğ%Aǅ;97hƜTECT%Aǅ;97bPAaǤTàʏ,;98bOSb,ťЇђÐĬȵDUCER;99bGCb,ťђÐĬȵDUCER;9AbCIaƤȵL SEQUENCEĬȵD",
    "UCER;9BbSIaʏ=ÐȶAś;9CcaOġAT=SYSTEM ĤND;9DbSCaPRIVACYȮSSƙ;9EbMaAPPLɺĹƜȎ ĤND;9FcCaNBSP;ADaSHY;1A2aŠŋGHA#GHA",
    ";34FaCGJ;61CaALM;709aSYRIAC ǥäǹƑ SKEW%_;CDEaKAĿDA &LĘ;E9DaLAO &FO FON;E9FpAY;EA3lRO;EA5lLO;FD0aTIBEȭÆ BK",
    "A- ɔG GI MGO RGYANÜECaH^UL JĥSEĥ YESšG-Ÿ+aƏŸrƏYESšGrYESšG-р;180BaFVS1d2d3aMVSaFVS4;200BaZWSPcNJcJaLRMaRL",
    "M;202AaLREaRĴPDFaLROaRLOaNNBSP;205FaMMSPaWJ;2066aLRIaRLIaFSIaPDI;2118aWEIERʏǭ ELLIPTîFUNCŖ;2448aMICRǦUSċ",
    "fŧċ;2B7AœɎ>Ȼ;2B7CaňɎ>Ȼ;A015aYI ЄťIÐAŶ;AA6EaMYANMǹ&ƈMTI Ę;FEěVS1c2c3c4c5c6c7c8c9c10d1Ԯ;FE18aPıØAĹƃ ȅĚ.ęӖ;",
    "FEFFaBYTE ORDERÆ;FEFFbOM;FEFFaZWNBSP;122D4aCUNEIƃƗNU11 ɰuß NU11ƬRÖBUR;16E56aMEDEFAIDRēŋH+bNG;16E76m/&HzN",
    "G;1BʂaHØAIGANA &E-1Ȝ0C5aBYZƦǡ ѡ]ǢFTǮA SKLIRŝCHROMA VASIS;E01ěVS17d8d9c20Ӑ30Ӑ40Ӑ50Ӑ60Ӑ70Ӑ80Ӑ90Ӑ10ѓd1ѓd2ѓd",
    "3ѓd4ѓd5ѓd6ѓd7ѓd8ѓd9ѓc20ѓd1ѓd2ѓd3ѓd4ѓd50e1e2e3e4e5e6"]

end ChangeReview.Text
