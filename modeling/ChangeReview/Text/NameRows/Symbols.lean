/-!
# Names of characters: symbols and the rest of the basic plane

Names of characters by Unicode 14, U+2000 to U+FFFF. The rows are one text, with marks for the words that recur. A name begins
with a small letter that tells how many characters it shares with the name before, `a` for none; each plus sign
before the letter adds 26. A name belongs to the code point after that of the name before, unless a semicolon
and a hexadecimal number stand in front of it.
-/

namespace ChangeReview.Text

/-- Punctuation and symbols, U+2000 to U+2FFF. -/
def symbolNames : List String :=
  [";20ěķʑbM ʑbN ʔbM ʔaT[-ġ-EM ʔa@-ġ-EM ʔaÕ-ġ-EM ʔaFIGURE ʔaǟ ʔaTHēʔaHǃ ʔaщ WIDTH ʔlNON-ɯERlɯÞ_-TO-.ǣaÁ-TO-_",
    "ÆaзaNON-BǅK=зaFIGURE ŧaķŧbM ŧaƢŢa>Ěähŀäa<Ђɨa.ЂɨaЂǒ-9 ɨhHIGH-ӝED-9 ɨa<>ɨa.>ɨa>ǒ-9 ɨhHIGH-ӝED-9 ɨbAGGERbOU",
    "фDAGGÞѯaˤѯa$Ũ LEADÞ:Ũ LEADÞĞґISbYPHENAĹОaȡɈaPýʞ Ɉa_-TO-.EMBEDD,aÁ-TO-<EMBEDD,aPOPǊžŖ]ƃATT,a_-TO-.ßRɢaÁ-T",
    "O-<ßRɢaNÛ NO-BǅK ʔaPçMĎEÍeĀÑÍbRŒa>PRŒaǝPRŒaăPRŒj>PRŒjǝPRŒaɁETaЂ_Ǝʿɨh˂ʿɨaREFERENCEÆa>˶ƭÐROB^aßäaǍERTIEaђʍ",
    "TIEbARETĬSERĹОaAʶISMaз ѯaFЕ˙a<ɩ!QUĎa.ɩ!QUĎa>ʣaQUESĹ˶aEXCáAĹʣaTIŦąÄETaăPILCROWÍÚ˭ѯgňѯaŀ˧aăʀƑaЃEŎa: ˧S ũGN",
    "%ǠLYaCOMMERCI]ˑÎSWŪ ŧaĠǍERTIEaFìǟÆaT[Ũ ǟaʑRUPťPRŒa@Ũ ǟb|Ũ ǟa:Ũ ǟa@ŨÆaȽĢażƑaĚ@ɑaŁMAÌMATIC]ʔaХ ɯÞFUNCĹAPPL",
    "IC÷ƭVISIфTŒSkɈkǲ;2066a_-TO-.ISOLƝaÁ-TO-<ISOLƝaFIRST ʏĥ ISOLƝaPOPǊžŖ]ISOLƝƭHIBIT SYMMETRîSWAPP,aACTIVƝ SY",
    "MMETRîSWAPP,ƭHIBIT ýBîƃ ?P,aACTIVƝ ýBîƃ ?P,aN÷]ʟ?PESbOȶ]ʟ?PESaҕщmŠ/&I;2074m@ӧmǲÍmˑmɶm<ƺm.ƺmŠ/&NcBɡщk$k:l",
    "[k@ԇkǲÍkˑkɶk<ƺk.ƺ;2090aŠǥɡ/&ǂE+dO+dX+dSCHWǂH+dK+ӾP+dS+dT;20A0aEURO-CURRENCYÎƑÍbRUZEIROÎFRENCH FRƷÎLIRAÎM",
    "ĎÎNǃAÎPESǯÎRUPEEÎWONÎNEW åQELÎDĥÎEUROÎKIPÎTUGRIKÎDȪHMAÎGERMĜPENNYÎPESOÎGUýNIÎAUSĶLÎHRYVNIAÎCEDIÎLIVREʺUR",
    "NOISÎSPESɕOÎTƚEÎĦąRUPEEÎTURKã LIRAÎʜDICÆÎƣATÎRUBLEÎLARIÎBITCOINÎSOMÍ;20D0aȄ<Ѫ*k.Ѫ*kāĚȡßѝŹĚȡßѝКÉ*kCѷÉ*k_É",
    "*k.Û*mNG ßѝCѷ R=ßѝК R=ßѝɍ*k@ɑ*kENЃ=ÇuÃuǉuȗȯ˙k<.Û*kENЃ=SCRĔuKEYCAPuUPWğŜôkЌʽ ßѝ>Ȼ ßѝANNUITYċkǝǍERƛkWɢ BRI",
    "DGE*kƍ ßLAYlĥ >ʽ ßѝňƻÈŇk˭ƻÈŇoÉŰ.ÛŰ˧*;21ěACCнųbDDıSED˘Ì ǥJECTaҠõCbEGREE CELSIUSaƟ äċbAREųcDA UNAaEULçƤSTƦ",
    "aSCRUPĴDEGREE FAHRENHEITaɡ/GhõHaǐ-&õHaҠõHaPLƷK ƤSTƦpÖ: PIaɡõIaǐ-&õIaɡõLh/LaL BŢæҠõNaћOÎSū žORD=COPYÁbCRI",
    "PT õPaҠõPwQaɡõRaǐ-&õRaҠõRaPıCRIPŖŲKEaıPONSEaSERVɿÆaҒÍbRADEÆÎVǆICĴҠõZaOUNCEÍbHMÎĠOHMÎǐ-&õZaèʳ/&ȥaKELVINÎ^",
    "SȵMÎɡõBaǐ-&õCaEƉMƝDæɡ/EhõEpFaèõFaɡõMh/OaƴæBETæGŒLæDŴTċƭƃAĹSOURCEaҚõQaFACSIɕEÎҠ/PIuGƒoõGƒwPIoN-ARY SUMM÷a",
    "è˝ õG+aLaă˝ õLaè˝ õYaҠǰLîõDv/Dɾ+bI+bJaƜġёäaèAMɪûaġÎAKTIESELSKABaè/FaǢʹǔMARITĜSOURCEaVULGǹFЕ$ S×THuNINTHu",
    "TØHvHIRDq: ˞Sq$ FIFTHq: FIFTHSr[ FIFTHSq@ FIFTHSq$ ÕTHqНÕTHSq$ ÅHqƕÅHSqНÅHSqS× ÅHSaFЕћAś $aROMĜћ]$ԎoĀoEL",
    "×oјoFɚoȈoF|ÿo$Ña/ROMĜћ]$u:v[u@ӣuĀuEL×uјuFɚuȈuF|ÿu$ÑaROMĜћ]$Ñ C DoF|ÑoĀÑoăȈaŠ/&ăCaROMĜћ]Õ LƝ ƃoFɚ ǌLY ƃuМ",
    "oȈÑaVULGǹFЕщ ˞Saèʟ:o[;2190aƍɹʚaâaʱa<ÁóďÈóˎÉgEȌóɲÉgɆóƍÔaâÔœʭʪʭÉœ: ŷ%Ûǈ: ŷEDʪ: ŷEDóń: ŷEDóƍ˅aâ˅aƍ˓ɹʚ˓aâ˓aʱ",
    "˓aďÈÉ!BASEaƍòaâòaƍ!ȀPaâ!ȀPa<.ʭÉlÛÔańZIGZAGÉɹʚ!TIP _ŇxÁŇaʱ!TIP _ŇzÁŇaâ!Ƿ ÈŇaʱ!Ƿ _ŇaК ǏʀÇóCѷ ǏʀÇóˎÉ˘āĝaƍˠÖ",
    "âˠaК ĖÇóCѷ ĖÇÉœƻUPŇ+cÈŇǈƻÁŇ+a_ŇaňƻUPŇ+dÈŇańƻÁŇ+c_ŇaâÖƍɹʚ _ŇàʱaƍÖâkPǃ%ÛSǈPǃ%ÛSaňPǃ%ÛSańPǃ%ÛSœѪÖňѪaňѪÖ˭Ѫœ>",
    "ÛÔe .>ÛÔaň>ÛÔœ>Ûǈĕʪĕóńĕó<.ĕóďŭĕóˎ >ÛgEȌ ĕóɲ >ÛgɆ >ÛœżPLEʪǝÛœSQUIGGLEʪSQUIGGLEÉɹʚ!>ðaʱ!>ðœŧ%ÛǈŧEDʪŧEDóńŧE",
    "DóƍˠaâˠœǄÉǈǄʪǄóńǄÉǈǄÉ˓uŝPEDţȉf!ƢŢ+lȔo>Û+aǦPEDEȬLaňǄÉ FROM WĺaˎÉ˘ǷaɲÉ˘ǷaďŭǄó.Û!/Çaʱ ˭OFŎʚaƕâSaƍ!Ȼaâ!Ȼa<.Û",
    "!Ȼeʚ!>Ȼaâ!>Ȼa<.Û!>Ȼe˛ʎьEDʪʎьEDó<.ʎьEDóȅĺaʗLEȆaƂTӼALaÌRE EXISTSgDOESĐ EXISTaEMPёʨƭCREȆaNABLAaŬȆųaŊ ĜŬȆųa/",
    "ŬȆųaЦS ASȮMBÞDOESĐ Ц ASȮMBÞ/ЦS ASȮMBÞʯƜOFaN-ARY ƜҩgCOƜҩgSUMM÷aˑÍf-OR-ǲÎƛ ǲbIVISIŝ˙aʨ ˑa˧ ƪaR=ƪaѯ ƪaÃȊOTa",
    "CUBEȊOTa@THȊOTaƜPORŖ]TOƭFIƯYa.^Ĵ^ĴMEASUR%^ĴSPHERIC]^ĴDIVɢSbOESĐǊVɢaҳʺaŊ ҳʺa˷ûiORƭÐʮaUNĩƭЛa>INЛaǝINЛaэOUR",
    "ĬЛaSURЁĬЛaVOLUMEĬЛaCѷĬЛkэOURĬЛaК эOURĬЛaÌREʹEaBECAUSEaRATIOaƜPORŖaƛ ˑaEXCESSaGEOMETRîƜPORŖaHOMOÌTICaÒ ƪa",
    "ăÒaĠLAZY SaSǡ ʭaWRƸH ƜҩaŊ Òaˑ ÒaASYMPTOTICĺY űŊ ASYMPTOTICĺY űӗLY ȑoBUTĐ ACTUĺY űNEITHçӗLY ʜ ACTUĺY űхűŊ",
    " хűхʙđűǝÒaĺ űҐGEOMEżCĺY ҐDIFFERENCE лaAPƜAùS Ì LIMITaGEOMEżCĺY űӗLY ȑđÌ IMƙųaIMƙųđӗLY űƑ ʙSaʙS ƑaR=ēȑfűC",
    "ORıPONDSʺaEƉMƝSbQUI^ЎTOaǤ ʙSaǳTA űȑ BY DEFINIŖaMEASUR%BYaQUESŖ%űŊ űIDØIC]TOaŊ IDØIC]TOaSżCTLY ҐĮđűĵđűĮÖű",
    "ĵÖűĮƬTĐ űĵƬTĐ űMUCH ĮfĵaлaŊ ԤØʺeĮeĵbEITHçĮ ʜ ȑiĵ ʜ űĮđҐĵđҐNEITHçĮ ʜ ԤØʺiĵ ʜ ҐĮđĵaĵđĮaNEITHçĮ ʜ ĵiĵ ʜ Įaѽ",
    "aѼaѽđűѼđűѽđҐѼđҐDOESĐ PžEDEjSUCCEEDaкųcˀųaŊ A кųiˀųaкųđȑcˀųđűNEITHçA кàʜ ȑmˀàʜ űкų!Ŋ ȑcˀų!Ŋ űMULTIʨi ˥IC÷",
    "jUNĩaÃ IMƙųhORɖN]OFhIMƙųđȑhORɖN]OFđȑhCAPiUPaſǲiˑiTŒSiDIVISIŝ˙jOT ƪiR=ƪi˧ ƪiʙSiŧaÃD ǲiˑiTŒSiƛ ƪaÁȹa_ȹaÈȹɹ",
    "ȹaǭERŖaMOǳSaTRUEaʹCESaǝȔ .БƉĴ>Ȕ >.БƉLEcESĐ ƜVEaŊ TRUEaDOESĐ ʹCEaЗ%>Ȕ >.БƉĴѽ ǍçREL÷aѼ ǍçREL÷aӎųaЦS AS ӎaӎ",
    "ųđűЦS AS ӎđűORɖN]OFaIMƙųaMULTȍPaHERMITąƤJUGƝƨżXƭÐCALƝaXORaNûbORa.^LE!ARCgôaN-ARY ˷ûoORgINÐʮgUNĩaǉ ƪbOT ƪ",
    "aǤ ƪaDIVISIŝTŒSaBOWTIEa<ʜM]FACś Ԑa.ʜM]FACś Ԑa<Ԑa.ԐbEVǆ%Ò ʙSaɓY ˷ORoûa>кjˀhINÐʮhUNĩaPITCHʹKaʙ(ҳʺaĮǗaĵǗaɬM",
    "UCH ĮkĵaĮ ȑđĵaĵ ȑđĮaȑđĮmĵmѽmѼaDOESĐ PžEDEđʙjSUCCEEDđʙaŊ Ã IMƙųđȑlORɖN]OFđűÃ IMƙųđŊ ȑhORɖN]OFđŊ űĮƬTĐ ҐĵƬ",
    "TĐ ҐѽƬTĐ ҐѼƬTĐ ҐŊ ӎųaDOESĐ Ц AS ӎaŊ ӎųđűDOESĐ Ц AS ӎđʙaĚґISaMIDȡĞґISaď.ȃґISaŭ.ȃґISaŬȆų!āĞðqȔ ȧʯĞða/ŬȆų!Ȕ",
    " ȧʯĞðaŬȆųĒqßĝa/ŬȆų!ßĝaŬȆų!ʫq: ĞðSaЦS!āĞðoȔ ȧʯĞða/ЦS!Ȕ ȧʯĞðaЦS!ßĝa/ЦS!ßĝaZĐAĹBAGȮMBERëPaDIAMEÐÎŬCżCóȘSEɹʛ",
    "aÈʛaƜJECT|bǆPECT|aWAVY äa<CEIL,a.CEIL,a<FȀRa.FȀRaɴ.CROPh<CROPaǏ.CROPe<CROPaăŊÎÃ ҀaARCaSEGȆcCśaҒ žORDÞǇIĹ",
    "ĦɺśaVIEWDATA ÃaɄCEųĬÐţÎèŊÎWATCHaȘRGLǭaǏ<Ƿe.Ƿaɴ<Ƿh.ǷaǏĸĬЛaɴĸĬЛaFROWNaSɕEɹʛ л : ƢŢSaOPĹKEYaERASE˘Ì ÁaX ēA ",
    "žTʿɌaKEYBOğa_Ǝ˨a˂˨aERASE˘Ì _aBENZENE R,aCYLĦRICITYaĺƮū-ƜFIĴSYMMETRYaTOT]RUNƩaDŒNSIŝORɖNaƤIC]TAPÞSLOPEaCн",
    "ERBOREhSINKaAPL FUNCŖ]ǢI-BEAMwSQUã ʑwʑ ʙ+bDIVɢ+dAŻD+bJOT+bÇwȗƉќdJOTw˙Ţwȯ˙Ţwʑ ˙+bȯ˙+bĮ+bĵw˭VANEwňVANEwʑ ƍ",
    "+bâwȗȯ˙wÈȹ ʫxELTA ƉLEwʑ ŭɁET+cELTAwÈȹ JOTwUP˛VANEwʑŎʚwUPȹ ßĝwǳ ƉLEwʑ ďɁET+bǳwUPȹ JOTwńVANEwʑ ʱyOTE ʫwǳTA",
    " ʫxIAŻD ʫwJOT ʫwȗʫwďɔE JOTwQUOTE ʑwȗǤwʑ ƑwUPȹ ˋwǳ ˋwǤ ˋwJOT ˋwȗˋwŭɔE ƉLEw<ɔE ƉLEwÒ ˋwĵ ˋwĤŢwǳ ÒwZILDEwƉť",
    "ÒxEMIƑ ʫwʑĐ ʙ+bQUESŖwŭɁET ÒwďɁET ÒwȥwʈwȂwɞ ʫwEȋ ʫwȥ ʫwȂ ʫwɞaŊ ùCKÆa.^LE!ńZIGZAGóSȘLDER%ĖɌaBELLæĚä!ȫŨƭSER",
    "ŖæэINUOUS ǍERäæDISэINUOUS ǍERäæEMPHASISæʗOSIŖċÝÃ!Ɵ ĚäaENÐæ˖| KEYæHELMæſƢŢ!ŊCHiô ÈaBROKķÇ!ʜTHɆóǍOæŻOȬBLEæ",
    "HYʶESISæʎ-CIRCUIT-ƩPUT H-TYPEċuL-TYPEæPǭ|-PULL-È-ƩPUTċnUP-ƩPUTæDIžT CURRØ Ǣƃ :aГWARE-FUNCŖæAPL FUNCŖ]Ǣʑa",
    "DECIM]Ɉ KEYæPREVIOUS PƙaNEXT PƙaPǽT SCRĔæCLEǹSCRĔæ<ƺ ĻĊrӛrìĊa.ƺ ĻĊsӛsìĊa<ɩ ĻǷuӛuìǷa.ɩ ĻǷvӛvìǷa<˻ ĻĊtËPIE",
    "CEtìĊa˻ ӛa.˻ ĻĊuËPIECEuìĊƭЛ ӛaĞȡӛˬ_đì.˻ ʮgÁđì<˻ ʮaSUMM÷ʺPkBOTTOMaǏɩaɴɩvÖǏɩaRADIC]ǢBOTTOMa<ĚɌ äa.ĚɌ äaĞSC",
    "Ĝä-1v3v7v9aDØIʏY ǢưǠ(ǏÁ+kɴÁ+gʁ ÇxÈ(Ƣ!ÇxUP(Ƣ!ÇxǠ!ôxÈ(Ƣ!ôxUP(Ƣ!ôxǠ(ʭxÈ(Ƣ!ʭxUP(Ƣ!ʭxÈ(ƢxUP(ƢxǠ(Ǐ_+kɴ_aÃ FOOT",
    "aREБæEJECTæĚȡӛaMEżC]ļjLĥÖSǮTjŹß LĥjLĥÖ: SǮTSj: SǮTSÖLĥuɯEDkɀEMEkEĶSEMEjPØASEMEaǌTH GRūaFUSEaǏƺaɴƺaǏ˻aɴ˻a",
    "ǏПŤaɴПŤÝĶPEZIUMaBENZENE R,!ÇaʲмaFLATмaAC CURRØaŬCżC]INÐʮaDECIM]EXP$NTċÚ˂>ôg_Ǝ>ôgUPƎ>ôgÈƎ>ôg˂>ô!Ȕg_Ǝ>ô!Ȕg",
    "˂ô!>ȔaŞRM CˌaɗWATCHaTIMçCˌaȘRGLǭ!Fǒ=SûÚŁ_Ǝôn˂ônUPƎônÈƎôa>ȔÚÃ ȅɗgȗȅžORDaPOWERċgON-OFFċiċgSLEEPæOBSERVçEYE",
    "æǢȅNULLlǤTàŷ,uTEXTlʯTEXTtRANSMISSĩnQUIRYlACKNOWLEDGElBELLmACKʔlƢŲBUL÷lȡFEEDlǠŲBUL÷lƃ FEEDlɁRIƙ REБlëFT Ʃ",
    "rINlDATA LINK ESCAPEmӽ$+a:+b[+a@lЗ| ACKNOWLEDGElSYNCHŦOUS IDLElʯĶNSMISSĩɃlCƷELlʯʵUMlǥƉTUTElESCAPElFIťɈlG",
    "ROďɈlžORD ɈlUƯ ɈlʔlDŬTEaBLANKæĖɌaǢȅNEWälDŬTE ƃ :lǥƉTUTE ƃ :;2440aOCR ĊeCHǃeʹKeĠʹKeBELT B˿LEfOW TIEfRƷH B",
    "ANK IDØIFIC÷eAMнàùCKeŧeCUSTOMçACCн ˆERe>ȯ˙;2460aſʟ$ԎiЖpEL×pјqHIRŘp@ŘqIFŘpÕŘq×ŘpÅĔpĈŘpTƐaƂENÌSIZ%ʟ$u:v[u@",
    "ӣoЖvEL×vјwHIRŘv@ŘwIFŘvÕŘw×ŘvÅĔvĈŘvTƐaʟ$ Ơg: Ơh[ Ơg@ Ơh| ƠgÕ Ơh× ƠgÅ ƠgĈ ƠaЖ ƠhEL× Ơhј ƠiHIRŘ Ơh@Ř ƠiIFŘ ",
    "ƠhÕŘ Ơi×Ř ƠhÅEķƠhĈŘ ƠhTƐ ƠaƂENÌSIZ%Š/&A+hB+ԙF+ԘJ+ԗN+ԖR+ԕV+ԔZaſŠŋǂB+dC+dԛ+dH+dI+dJ+dK+ӾO+dP+dQ+dR+dS+dT+d",
    "U+ԚY+dZo/&A+bB+bC+bDɾ+bF+bG+bH+bI+bJ+bK+bL+bM+bN+bO+bP+bQ+bR+bS+bT+bU+bV+bW+bX+bY+bZičaЗ| ſˆçEL×yјzHIRŘy",
    "@ŘzIFŘyÕŘz×ŘyÅĔyĈŘyTƐa>ſʟ$v:w[v@w|vÕw×vÅvĈpЖaЗ| ſčaɌ DRAW,S ưƢnşƢnưǠnşǠnưǝŧ Ƣnşǝŧ Ƣnưǝŧ Ǡnşǝŧ ǠnưʑRUPťŧ ",
    "ƢnşʑRUPťŧ ƢnưʑRUPťŧ ǠnşʑRUPťŧ ǠnưÈѹnŭí(.úsú(.ínşÈѹnưÈ(_nŭí(<úsú(<ínşÈ(_níŎѹnďí(.úqú(.ínúŎѹníŎ(_nďí(<úqú(",
    "<ínúŎ(_nưǠѹnĚí(.únďú(.ŭínŭú(.ďínĚú(.ínŭí(.ďúnďí(.ŭúnşǠѹnưǠ(_nĚí(<únďú(<ŭínŭú(<ďínĚú(<ínŭí(<ďúnďí(<ŭúnşǠ(",
    "_nưÈ(ƢoEFT ú(.ŭín.ú(<ŭínŭí(Ğúsú(Ğín.í(<ŭún<í(.ŭúnşÈ(ƢníŎ(ƢoEFT ú(.ďín.ú(<ďínďí(Ğúqú(Ğín.í(<ďún<í(.ďúnúŎ(",
    "ƢnưǠ(ƢoEFT ú(.Ěín.ú(<ĚínĚí(Ğúnďú(ŭĞínŭú(ďĞínĚú(Ğín<ďú(.ŭín.ďú(<ŭín<ŭú(.ďín.ŭú(<ďínŭí(ďĞúnďí(ŭĞún.í(<Ěún<",
    "í(.ĚúnşǠ(Ƣnư>ŧ Ƣnş>ŧ Ƣnư>ŧ Ǡnş>ŧ Ǡn>ƢuǠpWN Ȗ(.ĕsĕ(.ȖpUфÈѹpWN Ȗ(<ĕsĕ(<ȖpUфÈ(_nďȖ(.ĕqĕ(.Ȗn>UPѹnďȖ(<ĕqĕ(<Ȗn",
    ">UP(_nĚȖ(.ĕwĕ(.Ȗn>ǠѹnĚȖ(<ĕwĕ(<Ȗn>Ǡ(_pWN Ȗ(Ğĕsĕ(ĞȖpUфÈ(ƢnďȖ(Ğĕqĕ(ĞȖn>UP(ƢnĚȖ(Ğĕwĕ(ĞȖn>Ǡ(ƢníƮC Èѹ+g_xUP(_+",
    "eÁtȃĻÁ˘ì_+i˵Á+cĢt_tUPtÁtÈnş_tUPtÁtÈnư_(şÁtUP(şÈnş_(ưÁtUP(ưÈˬĸɃaìѤkȇɃgƕҗgĸɃgНҗgƕȇSɃgS× җaFULLɃa<S× җfƕȇSɃ",
    "fНҗfĸɃfƕҗf$ ȇɃjÅHɃa.ĸɃaư?DEaŁ?DEaDARK ?DEˬѤa.Ѥaѧ ì_pÁjĻ_t(ì_(ìÁ+eÁyĻÁ(ì_+uÁpÁu(ì_+j(ìÁÚÃÝÃm!Rū%ǷSnЦ=ĭ/Ãa",
    "Ã!ĞFĎmĚFĎmORTHOGON]ĢHATCH FĎmĻ˵.FĎsÁ˘ì<FĎmȃĢHATCH FĎÚ/ÃÝ/ÃÚžT^LEÝžT^LEÚĚžT^LEÝĚžT^LEÚҳOȎÝҳOȎÚUPƎôÝUPƎôÚU",
    "PƎ/ôÝUPƎ/ôÚ˂ôÝ˂ôÚ˂/ôÝ˂/ôÚ˂ОERÝ˂ОERÚÈƎôÝÈƎôÚÈƎ/ôÝÈƎ/ôÚ_ƎôÝ_ƎôÚ_Ǝ/ôÝ_Ǝ/ôÚ_ƎОERÝ_ƎОERÚǉÝǉn Ц=ĭ/ǉaFIåYEaҀÝÇa",
    "ȽÇaÇ!ĚFĎaBULLSEYEbLACK ÇaÇ!<ɭm.ɭmìɭmĻɭs.ѧ ǐmĺƬT Ļ<ѧ ǐa<ɭ Ça.ɭ ÇƭѶѯięÇˬĸĬѶęÇaìĸĬѶęÇˬ<ѧ CIRCЎARCg.ѧ CIRCЎA",
    "RCaì.ѧ CIRCЎARCg<ѧ CIRCЎARCˬŐÇaìŐÇÚì.ôm<ôgĻ<ôm.ôÝѯaÃ!<ɭm.ɭmĻ<ȃɭmì.ȃɭÝÃ!ĚBIɣT=ägUPƎôǗɹƎô!<ɭ+a.ɭaȢÇÝÃ!Ļ<ѧs",
    "ì<ѧy.ѧsĻ.ѧgÇ!Ļ<ѧsì<ѧy.ѧsĻ.ѧˬ<ôg.ôaì<ôÝŁÃÚŁÃÝŁ/ÃÚŁ/Ãaì.ôÚSUN!RAYSaCLOUDaUMBREĘaSNOWƣaCOMETaʥÝǤaíN,aTHǍǆśM",
    "aSUNaASCƌ=NODEaDESCƌ=NODEaƤJUNCŖaOPǇIŖÚҒÝҒaȠOT Ɍk!ùCKqXaSALTIREaUMBREĘ!RAēDROPSaHOT BEVERƙÝɔGI PIECEÚɔGI",
    " PIECEa?MROCKaăҚFLOR]Ǽ ѯÚ_Ŝźg.ҙźÝ_ŜźgUPŜźg.ҙźgÈŜźaSKULL(ĢB$SaCAUȿaRADIOACT|ÎBIOHAZğÎCADUCEUSaANKHaORTHOD",
    "OX Ģaǻ ʈbROSSàLORRAǡjJERUSŴMaǤ(ҋaFARSIæADI ?KTIaHAMMER(SŏĴPEACEæYēY^ażȎ ȅHEAVENmLAKEmFIREmTHǍERmWĦnAÐmMн",
    "ñmǌTHaWЏàDHARMAcITE FROWN=ЁgSɕ˦ĭSɕ˦ęSUN!RAYSaFIRST ҎMǾaLȌ ҎMǾaMERCURYaFEMŴÎǌTHaMŴÎJUPITÞSAБaURANUSaNEPTU",
    "NEaPLUTOaARIESaTAURUSaGEȶIaCƷÞLEOaVIRGOaLIBRAaSCORPIUSbAGIĪRIUSaCAPRICORNaAQUARIUSaPISCESÝ˾K,mвmRɮmѳmKˊm",
    "PAWNÚ˾K,mвmRɮmѳmKˊmPAWNgSPADE SUITÝǼ SUITgǉ SUITÚCLUB SUITÝSPADE SUITÚǼ SUITgǉ SUITÝCLUB SUITaHOT SPR,Sa",
    "ȇĐEaÅHĐEaBEAM%ÅHĐEShҤĐESaѡ FLATőNATURALő?RPÎɆ SYRIAC ĢaEȌ SYRIAC ĢaUN|RS]žYCL,æžYCL=ǢȅTYPE-1ԍ2ԍ3ԍ4ԍ5ԍ6ԍ7",
    " ɄƉCSvGENERICƨÐIALSÚUN|RS]žYCL,æžYCL%PAġæƂTIĺY-žYCL%PAġċbERƣØǱġÎWЏCHǃæDIE Ё-1j2j3j4j5j6ÝÇǗ ÁsƅÚÇ!ǄŨ Ás: ",
    "ǄɑaŻOȎ ȅY^oINaDIȎ ȅGǅʍY^lLESSçYINt^lGǅʍYINÝFȐÚFȐaHAMMER(PŏaƷǮaĢ%SХSaȬFFàAESCЍPIUSbCŴSaŴMBICaFǒÞGǌaȬFFàHE",
    "RMESaATOMæFLEUR-DE-LISaƩLINҧǤaƕäS ƤVERG=Áx_aWARN,ÎơVOLTƙÎĕD FEMŴÍiMŴÍƭÐˌ%FEMŴ(MŴÎMŴ(FEMŴÍfʁ ðÍrû MŴ(FEMŴ",
    "ÎĚMŴÔÎĞMŴÔÎŁęÇhĭÇh/ęÇbARRIƙæDIVORCEæUNMARRI%ƂTNERëPæCOFFINaFUNER]URNaNEUTÞCEıaPAĘSaJUNOaVEȬaǻŦÚMOŝLILITH",
    "aSEXTILEcMISEXTIĴQUINCUNXaSESQUIʑRƝbOCCçȠaBASEȠaÃD KEYÝDRAUGHTS ƣpK,ÚDRAUGHTS ƣpK,aSNOWMĜʁƩ SNOWbUN BEHĦ",
    " CLOUDaRñÚSNOWƣaTHǍçCLOUD(RñbURNҧɔGI PIECEhĭɔGI PIECEÝǉ ēÃaɦLANESaDISABL%Ɂa˹IUCHUSaPŏaCǹSLID,aHELMET!ęĢa",
    "ſɦLANESbHñSaNO ØRYa˳$-Ɋ <Ɋ ĶFFICÚ:-Ɋ <Ɋ ĶFFICÝ:-Ɋ <Ɋ ĶFFICÚ<LANEȮRGEÝ<LANEȮRGEaDR| SǒÍƆęÈƎôa<ȺØRYaÃDҴaFĺ",
    "=ȃēęȗēĭÃÚTR˿aıżCT%<ØRY-1w2aȌŦOMIC]ǢȅURANUSƆÇÔ(ƅ*aPØAȎaÁ-ĳ%INÐLAC%PØAȎa_-ĳ%INÐLAC%PØAȎaĠPØAȎÚĢǦëELDaëNTO ",
    "SHRǡaCHURCHbȌĴHISśîSITEaGEǹʁƩ HUBj ĳLESaMAP ǢȅíȘSEbнñaUMBREĘǦGRūaFнñbȐ ēHOLEbERRYaSAILBOATbQUARE @ ǷSbKI",
    "Þɿ SKƝaɪON!ȠaTØӨBANKæŷST$ öYğæFUEL PUMPaCUPǦĭÃÝFȐ!ĞËĭSżPEÚSAFEёSCISSORSˬBLADE SCISSORSÚSCISSORSaìBLADE S",
    "CISSORSÝSCISSORSgşùCKÆaҒ LOCAȿbAPE DR|aǃɄNEaҼa˱FISThĳaVICśY ĳaWRIT=ĳaì.PENCILaPENCILˬ.PENCILÝNIBÚNIBaùCK",
    "ÆƆùCKÆa˥ɺĹXƆ˥ɺĹXaȠOT XƆȠOT XaƩLIN%ʳĢƆʳĢaĖƟ ĢƆĖƟ ĢaŠĢaЙŠĢaƩLIN%ŠĢaMALTESE ĢaǤàDAVIDa@ɽğROP-SPOK%˧fȠǾ-˄ş@ ",
    "ȠǾ-˄@ CLUB-˄ĭ@ ǶǤÝ@ ǶǤaSƂKLESbTıS ƩLINҧǤaſęǤaĖƟ ʥÚƟ ęǤaƩLIN%ʥƆƩLIN%ʥaӒЙǤƆ˧aĖƟ ˧aÅ SPOK%˧gǶʥoӒÕ ǶʥaÅ ǶžTI",
    "äǹʥƆÅ ǶžTIäǹʥaј ǶʥaÕŘ Ƕ˧aTEğROP-˄ĖƟɽğROP-˄úɽğROP-˄Õ PETĺ%ǐ(ęFLORETTEÚFLORETTEÝFLORETTEaÅ PETĺ%ƩLIN%ĭFLOR",
    "ETTEaſĖƟ Å ǶǤƆTEğROP-SPOK%PINWЏ ˧aSNOWFLAKEaTѺ żFOLIƝ SNOWFLAKEƆùVRŝSNOWFLAKEaSƂKLEƆSƂKĴȠǾ-˄ÅɽğROP-SPOK%",
    "ƜPELLç˧ƆÅɽğROP-SPOK%ƜPELLç˧aĢÆaЙÇaЗ| ÃD ĢÆaì.DROP-ЙÃˬ.DROP-ЙÃaì.ЙÃˬ.ЙÃÚʣǜÝʣǜg˶ǜÚǉ ˑ ęXƆ˶æưȔaŁȔƆȔgЂèĤ ɨǜn",
    "Ĥ ɨǜg>èĤ ɨǜnĤ ɨǜgŀЂĤ ɨǜk>Ĥ ɨǜaɥ%STEM PýʞÍǜƆ˶ǜgǼ ˶ǜgĭǼaҚşĭǼ ѯaFLOR]ǼaҚFLOR]Ǽ ѯaŁ<ƺǜh.ƺǜhFLATĀ%<ƺǜr.ƺǜh_Ǝ˨",
    "ǜh˂˨ǜƆ_Ǝʿɨǜg˂ʿɨǜg_Ǝ˨ǜg˂˨ǜaư<ПŤǜg.ПŤǜaŁ<˻ǜh.˻ǜaD,BȧЗ| ſʟ$+f:+g[+f@+g|+fÕ+g×+fÅ+fĈzЖiſ˝ ʟ$+h:+i[+h@+i|+hÕ+",
    "i×+hÅ+hĈ+bЖiЗ| ſ˝ ʟ$+q:+r[+q@+r|+qÕ+r×+qÅ+qĈ+kЖƆWɢь%âgǲőˑőDIVISĩőɲÉgâgЪóDRAFT=О âƆRū-TIPP%âaƾ âƆƾ âaŧ%ƾ ",
    "âƆŧ%ƾ âÚâaT[-DʺP-í%âŷiBOTTOM-í%âŷÚâŷƆĭɥ%ÈŇ(âtUPŇ(âaSQUȧĭâƆƤCAVE-ǶĭâaÁ-?Dҧâa_-?Dҧâaȯ-TILT%ЙâaFŦT-TILT%ЙâƆ",
    "ìÁ-ЙâgĻÁ-ЙâaŊCH%ìÁ-ЙâaɓY ȀPaŊCH%ĻÁ-ЙâaſşęâaǄ-FEAÌR%âaǐ-FEAÌR%ɲÉqâqЪÉƆǐ-FEAÌR%ɲÉwâwЪóTEğROP-ĝB%âƆTEğROP-?",
    "NK%âaWEDGE-Ǔ%âƆWEDGE-Ǔ%âaʎ-ƩLIN%âa>ɓY ȀPaƕDŒNSĩ]^LEÝô Ц=/ęôaġPƌICЍRaĖкhˀa<S-?P%BAG ǳIMITÞ.S-?P%BAG ǳIMIT",
    "ÞORǗĬƖaЌʽ PžED=кaSUˀ PžED=ʽaȔ!ĞðaMAÌMATIC]ɀ,ǊɷALaāDIVISĩaMAÌMATIC]Fĺ,ǊɷALaÃD ˷ûqORÝǉ!ƟDŨaûǗaŬȆàʎ,ŎŇaì.ǷǗ",
    "ˬ<ǷǗa<OUʍɯa.OUʍɯaFULL OUʍɯaǩŎȹgÈȹbEFT(.>БƉLEpTACKfMULTȍPbĥ Áȹf_ȹɹȹ!Ç*aҀǊVID%BY ĞRULEÝƤCAVE-SID%ǉ+b!˭Tŏ+h",
    "ňTŏgÃ!˭TŏsňTŏaMAÌMATIC]<ęɩn.ęɩn<˨n.˨n<>˨n.>˨n<ęПŤn.ęПŤn<FLATĀ%ƺn.FLATĀ%ƺǈʑRUPLEóńʑRUPLEóК GAPP%ÇóCѷ GAPP",
    "%Çó.Û!ſǲaāƍfâf<.Ûj˛>Ûfň>Ûf<.>Ûjʚ˓fâ˓f˭>Û˓fň>Û˓qSQUIGGLEóBRAĎEǱTÐN BLANKqƛS-1v2ɒv3v13v23ɏv4v14v24ɒ4v34v13",
    "4v234ɏ4v5v15v25ɒ5v35v135v235ɏ5v45v145v245ɒ45v345v1345v2345ɏ45v6v16v26ɒ6v36v136v236ɏ6v46v146v246ɒ46v346v1",
    "346v2346ɏ46v56v156v256ɒ56v356v1356v2356ɏ56vǛv1Ǜv2ǛɒǛv3Ǜv13Ǜv23ǛɏǛv7v17v27ɒ7v37v137v237ɏ7v47v147v247ɒ47v3",
    "47v1347v2347ɏ47v57v157v257ɒ57v357v1357v2357ɏ57v457v1457v2457ɒ457v3457v13457v23457ɏ457v67v167v267ɒ67v367v",
    "1367v2367ɏ67v467v1467v2467ɒ467v3467v13467v23467ɏ467v567v1567v2567ɒ567v3567v13567v23567ɏ567vǛ7v1Ǜ7v2Ǜ7ɒǛ7",
    "v3Ǜ7v13Ǜ7v23Ǜ7ɏǛ7v8v18v28ɒ8v38v138v238ɏ8v48v148v248ɒ48v348v1348v2348ɏ48v58v158v258ɒ58v358v1358v2358ɏ58v4",
    "58v1458v2458ɒ458v3458v13458v23458ɏ458v68v168v268ɒ68v368v1368v2368ɏ68v468v1468v2468ɒ468v3468v13468v23468ɏ",
    "468v568v1568v2568ɒ568v3568v13568v23568ɏ568vǛ8v1Ǜ8v2Ǜ8ɒǛ8v3Ǜ8v13Ǜ8v23Ǜ8ɏǛ8vƊ1Ɗ278ɒƊ3Ɗ13Ɗ2378ɏƊ4Ɗ14Ɗ2478ɒ4",
    "Ɗ34Ɗ134Ɗ23478ɏ4Ɗ5Ɗ15Ɗ2578ɒ5Ɗ35Ɗ135Ɗ23578ɏ5Ɗ45Ɗ145Ɗ24578ɒ45Ɗ345Ɗ1345Ɗ234578ɏ45Ɗ6Ɗ16Ɗ2678ɒ6Ɗ36Ɗ136Ɗ23678ɏ6",
    "Ɗ46Ɗ146Ɗ24678ɒ46Ɗ346Ɗ1346Ɗ234678ɏ46Ɗ56Ɗ156Ɗ25678ɒ56Ɗ356Ɗ1356Ɗ235678ɏ56ƊǛƊ1ǛƊ2Ǜ78ɒǛƊ3ǛƊ13ǛƊ23Ǜ78ɏǛ78aň:ь%",
    "Û!Ȼ+h>Ȼœ>Û!Ȼaň>Û!Ȼa<.>Û!Ȼaň:ь%Û˓œ>Û˓aň>Û˓aʱ!Ğðɹʚ!ĞðiǝÛańǝÛœ>ŧʪ>ŧÉœǝŧʪǝŧÉmWOь%ǝŧÉlÛ!ȽSTEMɹʚˠaʱˠaâ˅!Ȼ+g>Ȼl",
    ":ь%Û˅+l!Ȼ+r>Ȼaƍ-Ǔaâ-Ǔœ>Û-Ǔaň>Û-Ǔaƍ˘ĭǉaâ˘ĭǉaƍ˓˘ĭǉaâ˓˘ĭǉaˎ(ɲÉgEȌ(Sǀ ɆÉgɆÉògEȌÉòaɲÉògɆÉòaˎÉ(ЪÉgEȌÉ(ɲóɲÉ(Sǀ ",
    "ɆÉgɆÉ(ˎóɀ=ȃɦFĺ,ǊɷALaFĺ=ȃɦɀ,ǊɷALaɲÉ ɦЪóЪÉ ɦɲóFĺ=ȃɦЪóɀ=ȃɦɲóЪÉ ɦˎÉgɆÉ ɦЪóʭÉŜDIžTLY ÁaÛŜňTHķɥ,ŎŇ+nÈŇpńTHķɥ=_",
    "Ň+mÁŇaÁ-ƖƮC Cѷó_-ƖƮC КóǏARC КóɴARC КóǏARC CѷÉ!ˑiКÉ!ǲaì.ʀCIRCЎCѷÉg<ʀCIRCЎКóК ȺÇóCѷ ȺÇóâ* Źƍaƍ* ŹâaŹâ* ƍaâ",
    "!ǲÊaƍ!ǲÊaâѻXa<.Ûѻ/Çǈ:ь%Û FROM /Ça_ŢB ď.ĝB ŭѪkŭ.ĝB ďѪɹŢB .ÈŢB <Ѫi<ÈŢB .Ѫa_ŢB ď.ĝB ďѪɹŢB .ÈŢB .Ѫa_ŢB ŭ.ĝB ",
    "ŭѪɹŢB <ÈŢB <ѪœƻUPˠaňƻUPˠǈƻÁˠańƻÁˠœƻÈˠaňƻÈˠǈƻ_ˠańƻ_ˠœƻUP˓aňƻUP˓ǈƻÁ˓ańƻÁ˓œƻÈ˓aňƻÈ˓ǈƻ_˓ańƻ_˓œƻUP* ˭ƻÈǈƻ<BEƖ",
    "Ŏ˛ƻÁaňƻUP* ňƻÈańƻ<BEƖ ńƻÁœƻUP* ňƻUP+cÈ* ňƻÈaňƻUP* ˭ƻUP+dÈ* ˭ƻÈœƻUP* āŧ+cÈÊ āŧaňƻUP* āŧ+dÈÊ āŧǈƻ<BEƖ ńƻÁa",
    "ńƻ<BEƖŎ˛ƻÁa.>Û!Rū%ŷaɶ* âaÒ ƪ* âaƍ* Ò ƪaâ* Ò ƪxхűĮ* ƍcFTʚѻĮaĵ* âaк* âaƍѻкaSUˀ* ƍa<Fã Ǔa.Fã ǓaďFã ǓaŭFã Ǔa",
    "ǝȔ ǳIMITÞZĐAĹSPOTlTYPE Ƒa<ę˻a.ę˻a<ęƺa.ęƺaZĐAĹ<IMƙŤl.IMƙŤl<BĦ,Ťl.BĦ,Ťa<ɩ!ʫa.ɩ!ʫa<ɩ!Tŏ ēǏǷa.ɩ!Tŏ ēɴǷa<ɩ!Tŏ",
    " ēɴǷa.ɩ!Tŏ ēǏǷa<˨Ǘa.˨Ǘa_ƮC ĮŤa.ARC ĵŤa>_ƮC ĵŤh.ARC ĮŤa<ĭПŤa.ĭПŤaȽFENCEaĚZIGZAG äaMEASUR%ʿʎ=_a.ʿʐNT!ÃaMEA",
    "SUR%.^LEǗa^LE!SĬƖbCUTE ^ĴSPHERIC]ʿʎ=_yUPaè^Ĵă^Ĵ^LE!ʫaă^LE!ʫaѕʿʎ,ŎwÈaMEASUR%^LE!ʎƮM ƌ,ĬÉŜUPѹ++j_++cÈѹ++l_",
    "++cÁ(UP++c_(UP++cÁ(È++c_(ÈaăEMPёʨaEMPёʨ!ßĝp/Ç*p.Û*p_É*aÇ!ƢŢgD ȔiҳiЌʽiġPƌICЍRgǊVID%BY ƢŢ(ǏĸǊVID%BY Ȕhʁ SU",
    "ġIMǇ%XgD К-ҚDIVISĩÍɹÉѻÇaſęѯiѯiĮiĵg!/Ç˘Ì Ám: ĞðS˘Ì ÁaÃD ɀ=ȃ˙iFĺ=ȃ˙i˧i/ÇjQUAREa: ɯ%ÃSbRI^LEĒoʫaS ēôaô!SERI",
    "FS ȧBOTTOMa.ô* <ôa<ô BEƖ ȔaȔ BEƖ .ôaBOWTIE!<ɭm.ɭbLACK BOWTIEaTŒS!<ɭl.ɭÝȘRGLǭÚȘRGLǭa<WIGGLY FENCEa.WIGGLY",
    " FENCEa<>WIGGLY FENCEa.>WIGGLY FENCEƭʗLETEĬFIƯYaTIEÖINFIƯYƭFINIёЗED!Ȕaĕ-ƌ%MULTȍPaÃ!эOUR%ƩäƭCǅSES ASaǑFFť",
    "Ɯҩaɶ(ʸҳ+g!Ò*aIDØIC]TO(ʸҳaGLEICH ǤKaÌRMODYNAMICaÈƎô!<ɭ+c.ɭÚǉ!ÈÉgҀÝÇ!ÈÉÚÇ!ÈóERROR-ĝRҧÃnĭÃnęǉnĭǉnęÇnĭÇaRULE",
    "-ǳAYEDbEѶʽ ƪaʽ!ßĝaЌʽ!ĞðaBIG ʽeЌʽa>ǲaǝǲa_Ǝɥ%˨a˂ɥ%˨aTINYaȶYaN-ARY ſƛ ƪoǲ ƪoTŒS ƪgUNIŝƪǗ+aǲgÃĬÐʮ ƪnUNIŝƪa: ",
    "˷û ƪmOR ƪaN-ARYÀƪaMODULO : SUMaSUMM÷!INЛaʑRUPLEĬЛ ƪaFIƯE ƂTĬЛƭЛ!>ðjAVERƙ!˙aCIRCЍĹFUNCŖaКĬTEGR÷aäĬTEGR÷!ž",
    "T^ЎPATHƮū POLEwʀCIRCЎPATHƮū POLErŊĬCLUD=Ì POLEƭЛƮū A О ƪaQUAÐNĩĬЛ ƪƭЛ!ƍòoTŒSÍoINÐʮoUNĩoßĝoʫaɯaȢ<ô ƪaZĐAĹ",
    "SùMA ʗOSIŖsPIP,tROJECŖaǲÍ!/Ç*pАǵ*pÒ*pʘpÒÊpǥɡ:pĭôaˑÍ!Ĥ*qʘqFĺ,ɑqɀ,ɑaǲƗē<ŐÇn.ŐÇaVECśđĢ Ɯҩa˥ɺȿĒzʫaԐ!ɴЃEDbMê ",
    "Ɯҩa˥ɺȿ ē<ŐÇx.ŐÇaſ˥ɺȿĨǵa˥ɺȿ ē>ÇaſDIVISĩÎǲƗēôaˑƗēôbULTIPLɺȿ ēôƭÐIOR ƜҩaÁĳĬÐIOR ƜҩaZĐAĹREL÷]ʗOSIŖaAMALGAM÷đ",
    "COƜҩƭÐʮǗaUNĩ!ˑÍlßĝƭÐʮ!ßĝs˷ûaUNĩ!˷ORgABOVEĬÐʮƭÐʮ* UNĩaUNĩ*Ţ*ĬÐʮƭÐʮ*Ţ* UNĩaUNIŝBEƖ(ɯED!UNĩƭÐʮ BEƖ(ɯED!INÐʮ",
    "aȺUNĩ!SERIFShINÐʮ!SERIFSa>ÃĬÐʮoUNĩaȺUNĩ!SERIFS(SMê Ɯҩa˷ûĒiORĒa>˷ûpORa:ĬÐɣT=˷ûzORaSLOP=ȢORoûa˷OR ßLAPP=˷û",
    "iû!ËSTEMiOR!ËSTEMiû!ĞŧiOR!Ğŧiû!>ßĝrʫr>ʫa/VEE!ʫa˷OR!>ßĝxʫaZĐAĹDOMAēдıżCŖlR^E дıżCŖaɶōaIDØɺLĒaǝƢŢ!>Ȼ+bǝȻbI",
    "LDE ƪĒuɀ,ɑaSIɕǹˑ SIɕARaCĥRUØĒaʙS!˧aхȑĨǵbPƜXIMƝLY ʙđűɶ* ǲÎǲÍ* ɶaɶ* Ò ƪa>Ƒ ʙa: ƤɣUT| ɶSb[ ƤɣUT| ɶSaɶ!ƅ*(ƅÊ",
    "dIVALØ!@ɑ*aĮ!ÇĬƖaĵ!ÇĬƖaĮ!ʣ*aĵ!ʣ*aĮđʸűĵđʸűĮđʸȑǗĬƖaĵđʸȑǗĬƖaĮđʸȑĒaĵđʸȑĒaĮđʸȑĒ ÁaĵđʸȑĒ _aĮđӗaĵđӗaĮ(Ȗ-äĐ űĵ(Ȗ",
    "-äĐ űĮ(Ŋ ӗaĵ(Ŋ ӗaĮ* ĕ-ȡʙ* ĵaĵ* ĕ-ȡʙ* ĮaĮ* SIɕARđʙaĵ* SIɕARđʙaĮ* SIɕAR* ĵaĵ* SIɕAR* ĮaĮ* ĵ* ĕ-ȡʙaĵ* Į* ĕ-",
    "ȡʙaĮ* ʸʙ* ĵ* ʸʙaĵ* ʸʙ* Į* ʸʙaʸȑđĮuĵuĮǗĬƖuĵǗĬƖaĕ-ȡȑđĮyĵmʸȑđĮ+gĵaSIɕARđĮlĵiABOVE Į* ɶoĵ* ɶa>Nţ%ĮoĵoĮ!ʫaĵ ß",
    "LAPP=ĮnBEƖ ĮaĮ ȺBY ɥEaĵ ȺBY ɥEaĮ ȺBY ɥE* ʸʙaĵ ȺBY ɥE* ʸʙaѾçƧNaǩR ƧNaѾçƧNđűǩR ƧNđűɶ!BUMPY*aѽ* Ȗ-ȡɶaѼ* Ȗ-ȡ",
    "ɶaѽ* Ȗ-äĐ űѼ* Ȗ-äĐ űѽ* ɶaѼ* ɶaѽ*Đ űѼ*Đ űѽ* хűѼ* хűѽ*Đ хűѼ*Đ хű>ѽhѼaкǗcˀǗcBʨ!ǲÍÊcˀ!ǲÍÊcBʨ!˥ɺȿÊcˀ!˥ɺȿÊcBʨų",
    "đȑĒcˀųđȑĒcBʨų* ɶcˀų* ɶcBʨų* Ò ƪcˀų* Ò ƪcBʨų* хȑcˀų* хȑcBʨų*Đ ȑcˀų*Đ ȑbQUARE <ĖɌ ƪh.ĖɌ ƪaȺкjˀjBʨđȑjˀđűк* ",
    "SUˀcˀ* кcBʨ* кcˀ* SUˀjBEƖ кqû ɯ%BY ŧ!кaŬȆàʎ=ÈŇaPITCHʹK!TEEʺPaĶNSVǆ]INÐʮaʹK,aNONʹK,aŹ_ȹgÈȹgUPȹaġPƌICЍR!Sa",
    "Ȕ ǝ.БƉĴ>Ȕ <БƉĴȔ ><БƉĴ>Ȕ ><БƉĴāŧ FROM _ȮMBERà>ǠaŹÈȹ!ßĝgUPȹ!ʫoABOVE ŹÈȹa>ÈȹhUPȹhðĐÎă>ðĐÎDOESĐǊVɢ!ăЗIŝ˙aĚä!",
    "Ç*+aȏaÈȹ!ÇÊaҳ!ĞðoÒ ƪaǝȔ BINARY REL÷uʁ ĞðhƑ ƪhNţ%Įoĵaĕ-ȡʸĮđȑuĵđűǝʽ BINARY REL÷aȢǝȔ ƪa>ʽ ƪÝȔaN-ARY ęȔbORTH",
    " EȌ ǄÉgɆ Ǆóɲ ǄÉgɆ Ǆó<.ǄÉe˛ǐÉǈǐóńǐóЪ ǐÉgɆ ǐóɲ ǐÉgɆ ǐó<.ǐóďŭǐóâ!TIP ÈŇ+ɹŇaƍ!TIP ÈŇzUPŇaÃ!ǏɭmɴɭmĻ.ȃɭmì<ȃɭaǉ",
    "!<ɭn.ɭnǏɭnɴɭbOTT%ÃÚȢÃÝȢÃÚɬ/ÃÝɬ/ÃÚPØɷÝPØɷgHEXɷÚHEXɷaĞĭHEXɷÚȢÇgŁǉÝŁǉÚŁҀÝŁҀÚ/ǉmҀÝ/ҀÚĞґEÝĞґEÚĚґEÝĚґEa_É!/Çaƕ",
    "ƍSa_É!ſǲbĥ ˭SQUIGGLEÉbEFT˛:ь%Û!Ȼ+g>Ȼ+bFROMŢvǝŧÉkÛ!ȽSTEMvǓ!Ȼ+f>Ȼk:ь%Û˅+k!Ȼ+q>ȻkÛѻXaʭÉŜDIžTLY _aɶ* ƍaЌÒ ƪ*",
    " ƍaƍ* ЌхűâѻĵzSUˀœʑRUPLEʪʑRUPLEÉbEѶÒ ƪ* âbѺʚ* ЌхűÒ ƪ* ƍaƍ* хȑwЌÒ ƪaâ* ЌÒ ƪańƾ ZIGZAGóŹʸʜTHÉgȯʸSǀÉÝŁǤÚ/ǤÝ/",
    "ǤÚ˂PØɷÝ˂PØɷƆȢÇgOVAL!OV]INƖgÇ!ÇĬƖmmDҴaʸʜTHÉò%ŷaȯʸSǀÉò%ǓaʸʜTHÉ!ĞǓaȯʸSǀÉ!ĞǓbØÉŜńTHķЪaŹɫÉŜńTHķЪœƾÉǈƾʪƾóńƾó<.",
    "ƾóďŭƾóˎ ƾÉgEȌ ƾóɲ ƾÉgɆ ƾÉœƾ ŧ%Ûǈƾ ŧEDʪƾ ŧEDóńƾ ŧEDóCѷ ƾ ĖÇóК ƾ ĖÇÉœƾÉˠǈƾÉˠaňƾÉˠańƾÉˠ;2B76aˎ ƾÉˠgEȌ ƾÉˠaɲ",
    " ƾÉˠgɆ ƾÉˠœɎ>ĞðǈɎ>ĞðaňɎ>ĞðańɎ>ĞðaƢŲB KEYaǠŲB KEYœƾÉÖňƾÉǈƾÉ _ŇàńƾʪƾÉÖ˭ƾóńƾÉ ˭OFŎ˛ƾÉœƾ Pǃ%ÛSǈƾ Pǃ%ÛSaňƾ Pǃ",
    "%ÛSańƾ Pǃ%ÛSœĭſǄÉǈĭſǄʪĭſǄóńĭſǄóК ƾ .U-?P%Û+eɴU-?P%Û+e<U-?P%Û+eǏU-?PEDóREБ _hÁaNEWȡ_iÁa@ ǷÉS CIRCL=КaňǐÉ;",
    "2B97aǢȅTYPE A ŬCTŦICSaT[-DʺP-í%˭ˇiÁ-í%UP˛ˇiTOP-í%ňˇi_-í%ńˇÚ˭ˇgUP˛ˇgňˇgńˇańɎāTIP _Ň+uÁŇǈɎāTIP _Ň+sÁŇœɎāTI",
    "PŎŇaňɎāTIPŎŇœɎāTIP ÈŇaňɎāTIP ÈŇÚɥ%ÈŇ(ƍ+bânUPŇ(ƍzân_Ň(UPʚnňûŎʚn_Ň(ʱnÁŇ(ʱaRIBBONÉ ŭ_sÁnď_qÁn_Ŏn.UPn<Èn.ÈǈǄ",
    "É˓!ƢŢcʛ ēA žTʿɌaßLAPP=ęÃSsû ĭÃSmĭÃSaȠOT Ɍ!ưXaſXiBƥXÚÃ ƟDgǉ ƟDaèĭPØɷaĞĭOCTɷÚOCTɷgŁUPƎô ƟDnÈƎô ƟDn_Ǝô ƟDn˂",
    "ô ƟDaNEPTUNE ƃ :aǏɭ Çaɴɭ Çaư@ ǶĭCUSPaҚư@ ǶĭCUSPÝ@ ǶCUSPaҚę@ ǶCUSPaÃ ǇIĹĦɺśaUNCERTñTYÎGROUPÆaPLUTO ƃ :m[l",
    "@m|aĶNSPLUTOaƜSERPINAaASĶEAaHYGIEAaPHOLUSaмUSÝMOŝSŬNAÚǉǦĢaTRUE ưMǾƮTAaCUPIDOaHADESaZEUSaKŦOSaAPOLLONbDME",
    "TOSaVULCANUSaǇEIDONa<Őʥa.ŐʥaǤ!<ɭk.ɭœ:ь%Û!˃Sǈ:ь%Û!˃Saň:ь%Û!˃Sań:ь%Û!˃SaEɀ ƃ $k:aSEDNAaRUSSąASȵ˷ǢVɖNTIќcNO",
    "VIќcQUINTIќcBINOVIќcSØɷ+cTREDECIĴɶ!INFIƯYÊaUƯEDæSEƂƝDæĕDæPǭEDæă.^ĴHELLSCHREIBERǱUSEæGȐOLITîŋAZȷBUKY+aVED",
    "ȩGȐOLŔDOBRO+aYţȷZH|TȩDZELO+aZEMLJÓIZHE+bƯI]IZHE+b+aDJERVŔKAKO+aLJUDIJȩMYSLITȩNêŔONȷPOKOJŔRITSŔSLOVO+aTVR",
    "IDO+aUKȷFRITȷHERȷOTȷPȩSHTÓTSŔCHRIVŔ?+aYERU+dI+bATŔSPɢRY HÓYȷѾɸ+j˅+aYO+aȥT%Ѿɸ+aBIGɸ+aȥT%BIGɸ+aFITÓIZHITSÓ",
    "SHTAPIC+aȵKUTAƉ ÓLATIєMYSLITȩCAUDƝ CHRIVIl/&AZUyBUKYyVEDEyGȐOLIyDOBROyYţUyZH|TEyDZELOyZEMLJAyIZHEzƯI]IZH",
    "EzyDJERVIyKAKOyLJUDIJEyMYSLITEyNAëyONUyPOKOJIyRITSIySLOVOyTVRIDOyUKUyFRITUyHERUyOTUyPEySHTAyTSIyCHRIVIy?",
    "yYERU+bIzATIySPɢRY HAyYUyѾɸ+h˅yYOyȥT%ѾɸyBIGɸyȥT%BIGɸyFǰyIZHIƔySHTAPICyȵKUTAƉ AyLATIєMYSLITEyCAUDƝ CHRIVI",
    "aŠŋL!>ĝ#L!>ĝ)L!ËÒvPÔvR˅#AÔtT!ȃð)H!ǘ#H!ǘ)K!ǘ#K!ǘ)Z!ǘ#Z!ǘ)ɞvMòvèǂLPHA#V!.Ċ)Wò#WòtV!ɓ)ŐH#ŐHtǓЫPHItE!ŊCHtèR˅",
    "tO!ŀR,ĬƖgɵèEgǥɡ/&Jaʖ&õVaŠŋS!SWê ǓvZ!SWê ǓaCOPTîŋALFAįALFAņVIDAįVIDAņGƒįGƒņDALDAįDALDAņEIEįEIEņSOUįSOUņZA",
    "TAįZATAņHƝįHƝņÌÌįÌÌņIAUDAįIAUDAņKAPAįKAPAņLAЍįLAЍņMIįMIņNIįNIņKSIįKSIņOįOņPIįPIņROįROņSȍįSȍņTAUįTAUņUAįU",
    "AņFIįFIņKHIįKHIņPSIįPSIņOOUįOOUņӘ ƴįӘ ƴņˣñįˣñņҹEIEįҹEIEņӘƞPAįӘƞPAņӘ NIįӘ NIņҹNIįҹNIņˣOOUįˣOOUņSAMPIįSAMP",
    "IņĢ%åIįĢ%åIņˣåIįˣåIņˣćįˣćņAKHMIMîKHEIįAKHMIMîKHEIņӘ ǮIįӘ ǮIņˣǮIįˣǮIņˣHAįˣHAņL-?P%HAįL-?P%HAņˣHEIįˣHEIņˣH",
    "ATįˣHATņˣG^IAįˣG^IAņˣDJAįˣDJAņˣSHȍįˣSHȍņӆSHȍįӆSHȍņӆNGIįӆNGIņӆNYIįӆNYIņӆWAUįӆWAUiYMBOLƞIoMIȊoPIȊoȬUROSoTA",
    "UȊoKHIȊoSHȍ SȍņҹåIįҹåIņҹG^IAįҹG^IAhȄNI*rSPIRITUS ASġ+aLENISiAPIT]&BOHǃîKHEIįBOHǃîKHEI;2CF9hӆƠsDIžT ʣsĦIž",
    "T ʣsѶDIVɢRhFЕ$ ĸiULL ɗhMORPHO˷DIVIDÞGEORGą/&ANwBANwGANwDONwENwVINwZENwȭwINwKANwLASwƣwNARwONwƂwZHARwRAEwS",
    "ANwTARwUNwPHARwƈRwGHANwQARwëNwǻNxANwJILwCILxHARwXANwJHANwHAExExIEwWEwHARxOE;2D27wYN;2D2DwAEN;2D30aTIFINA",
    "GH &YAsBtHsGtHHqBERBçACADEMY YAJqYAJsDtHtDuHrEYrAFsKӥKqYAKHHsHqBERBçACADEMY YAHӥHqYAHHsAsKHӥKHqYAQӥQqYIr",
    "AZHqAHAGGǹYAZHӥZHqYALsMsNӥGNzNGqYAPrUrARtRsGHӥGHqAYçYAGHqYAStStHsTtHsCHsTTsVsWsYsZqTAWELLEMET YAZqYAZZrE",
    "rO;2D6Fjʖ&LABIũZAŶjɈÆ;2D7Fjˏ ɯÞïIOPîЄťLOAsMOAsROAsSOAtHOAsBOAsTOAsCOAsNOAtYOAsʉOAsZOAsDOAtDOAsJOAsTHOAsC",
    "HOAsPHOAtOAsGGWAvIvEEw;2DA0sSS˜;2DA8sCC˜;2DB0sZZ˜;2DB8sCŗvUԊvO;2DC0sQY˜;2DC8sKY˜;2DD0sXY˜;2DD8sGY˜;2DE0a",
    "ȄCѵ&BȩVȩGHȩDȩZHE+bȩKÓEL+bM+bN+aO+aPȩER+bS+aTȩHÓTSȩCHȩ?+cCHÓFITÓES-TȩÓIȩDJERV+aŻOʞ UK+aYAT+bȷч%ÓȚɸ+aBIGɸ+",
    "aч%BIGɸa.ʿǥƉTUŶERmȽǥƉTUŶÞ<ǥƉTUŖŤa.ǥƉTUŖŤa<ȽǥƉTUŖŤa.ȽǥƉTUŖŤbAIS%INÐPOLAŶERhȽINÐPOLAŶÞȽĶNSǇIŶÞ<ĶNSǇIŖŤa.ĶN",
    "SǇIŖŤbAIS%Ãa<˱OMISSĩŤa.˱OMISSĩŤaEDIśI]COŦISaPýʞOSaʹK%PýʞOSaăʹK%PýʞOSaHYPODIȌOĴȽOBELOScWN˛ƷORAǈƷORAaȽ˂^LE",
    "cUфѕзaĠINÐROB^aPALM BRƷHaзůaÒ!R,*a<ŀPýPHRASEŤa.ŀPýPHRASEŤaÒĒpȏa<Ȕ!QUĎa.Ȕ!QUĎaǏ<ĸŤe.ĸŤaɴ<ĸŤh.ĸŤa<ƖɊS UŤa.",
    "ƖɊS UŤa<>ƺa.>ƺaƅÖ$Ũ ǟa$ŨÖƅ ǟaÃD @Ũ ǟaF|ŨÆaăʣaĚÒaR=ОaХ Ɉ ȫŨaèĤa˱ƛhĤaèʀƑaDAGGER!<GUğm.GUğaèDAGGERbOP ŐɣȿbW",
    "O-EM ŧb[-EM ŧaSĀOЇƠaĚÕɑaWIGGLY ĚäaCAPITULUMa>зaăĤa>ǒ-ӝED-9 ɨbê!_ŎБbOUфSUSPENSĩÆaĠǒƞVYKAt!KAVYKA*aǒƞVYKAk",
    "Ǘa>ȬCK%ĤcTT%ʽaǝDAGGÞʵEV]ĤaPýʞUSÆbUNCTUS ŬVATUSÆaCORNã ѶDIVɢRbROSSǱTTY!.Ģĝr<ĢĝaTIŦąÄõETaʵEV]˶jʣa<ɩÔa.ɩÔa<",
    "ɩ!>ða.ɩ!>ðaǏŐ<ƺj.ƺaɴŐ<ƺm.ƺaѕз;2E80aCJK RADIC]REPƸmCLIFFmSEƤD $t:u[mɪONmɌmTABLEmKNIFE $s:mDIVIN÷mSEALnMĺ ",
    "$s:máE $r:s[r@mSNAKEmTHǅDmSNƩ $s:mǼ $s:nûmRAP;2E9BmCHOKEmSUNmMǾmDƸHmMOÌRmCIVILIANmWAʍ$s:mFIREmPAW $q:m˔Ő",
    "TREE TRUNKmCOWmDOGmJADEmBOLTàCLOTHmEYEmSPIRIT $t:mBAMBOOmSILKmC-˔SILKmNET $q:r[q@mMćmåEPmȨmEWEmȴmBRUSH $",
    "s:mMƸnORTARmGRǭ $s:t[mTIGERmCLOÌSmɆ $r:mC-˔SEEm˔ƫmƫmC-˔SPEECH+aHELLmFOOTmC-˔ɁTm˔WALKmWALK $r:mCITYn-˔Gȴm",
    "ā$r:mC-˔LĥzGƝmMū $s:mRñmBLUEmC-˔ȭN%LEAÌRz˒zWĦzFLYmEȧ$q:r[mC-˔ƸmŷmC-˔ǮSEmB$mGHOSTmC-˔FãzBIRDzSALTm˔WHƸxYE",
    "LǒmC-˔FROGmJ-˔×mC-˔×mJ-˔TOOTHmC-˔TOOTHmJ-˔DRɷmC-˔DRɷmTURTLEmJ-˔TURTLEmC-˔TURTLE;2FěK^XI RADIC]$päpƛp˙qEƤ",
    "DpĊp:pLIDpƣpLEGSpENÐqѺpŭɌpCßpɿpTABLEpĖɌpKNIFEpPOWERpWRAPpSPǾp.ĖɌpHID=ENЃUREpĀpDIVIN÷pSEALpCLIFFpPRIVƝpAG",
    "ñpMǀpENЃUREqARTHpSCHOLARpGOr SǒLYp×,pBIGpWOƣpǻLDpROOFpINCHpѾpáEpCORPSEpSPRƩpMнñpR|RpWORKp$SELFpTURBANpDR",
    "YpŹTHǅDpȽCLIFFpāʏɢp: ĳSpɔOTpBOWpSNƩpBɀTLEpSTEPpǼqALBERDpDOORpĳpBRƷHpRAPpSCRIPTpDIPġpAXEpÃpŊpSUNqAYpMǾpTR",
    "EEpLACKpɗpDƸHpWEAPONpDOĐpʗAREpFURpCLANpSTEAMpWAÐpFIREpCLAWpFAÌRp>XpŐTREE TRUNKpSLɿpF^pCOWpDOGpƜFūpJADEpM",
    "ELONpTILEpSWEETpLIFEpUSEpFIELDpBOLTàCLOTHpSŏмpȽTØpǄpSKINpDãpEYEpSPǌpÛpST$qPIRITpTȪKpGRñpCAVEpSTûpBAMBOOp",
    "RɿpSILKpJARpNETpåEPpFEAÌRpȴpûpPǒpǌpBRUSHpMƸqINIʶpSELFpARR|pMORTARpTĥUEpOPǇEpBOATpɗP,pCOLORpGRǭpTIGERpINɣ",
    "TpBȀDpWALK ENЃUREpCLOÌSpɆpSEEpƫpSPEECHpVĺEYpBEANpPIGpBADGERpåLLpREDqUNpFOOTpBODYpɁTpBITÐpMORN,pWALKpCITY",
    "pWǡpDIST,UãpVĎƙpGȴpLĥpGƝpMūpSLAVEqǮT Ǔ%BIRDpRñpBLUEpWRĥpЁpLEAÌRpȭN%LEAÌRpLEEKpSūp˒pWĦpFLYpƸpŷpFRAGRƦpǮSE",
    "pB$pTĺpHǃpFѺpSACRIFICI]WǡpCAULDŦpGHOSTpFãpBIRDpSALTpDEERpWHƸpHEMPpYELǒpMĎETpǐpEMBROɢRYpFROGpżPODpDRUMpRA",
    "TpNOSEp×pTOOTHpDRɷpTURTLEpFLUTE;2FF0aɛЇDESCRIPĹђʍўÁ+iABOVEʺÊ+iўȫѹ+iABOVE˘ȫ(ȏ+iFULL SURRū+iSURRū FROM*+wȏ",
    "+w_+wĻ_++cÁ+wì_+ißLAID"]

/-- Scripts and signs of the rest of the basic plane, U+3000 to U+FFFF. -/
def easternNames : List String :=
  [";30ěɛЇʔmĤmƠaDITTOÆӨĦUSż]STûğæɛЇIÐAŶmЃ,Æmˆçщa<˨a.˨a<>˨a.>˨a<ǷŤa.ǷŤa<ęǷŤa.ęǷŤa<ĭӖa.ĭӖaǇT]ǣaGǯÆa<ПŤa.ПŤa<ęӖ",
    "a.ęӖa<ęПŤa.ęПŤa<ęɩa.ęɩaʭ ŧaă>PRŒ ɨa>PRŒ ɨaŀ>PRŒ ɨaǇT]ǣ ŅH^ZȘ ћ]$r:s[r@s|rÕs×rÅrĈaɛЇLEVEL T$Æmɀ=T$ÆmDEƂT=",
    "T$ÆmENÐ=T$ÆaH^UL ȖŨ T$Æh>ƛ T$ÆaWAVY ŧaǠƞNA REPƸÆvʁ Ӛvǣ Ļĸvʁ Ӛ Ļĸvǣ ìĸaſǇT]ǣaɛЇTŬʞ ȡFE%ɈæH^ZȘ ћ]ĀsƐsǙaĚɛЇ",
    "IÐAŶaMASUÆaƂT ˖ĩÆaɛЇʐĹĦɺśmŐFĎ ʔ;3041aҰ&/AqAq/IqIq/UqUq/EqEq/OqOqKAqGAqKIqGIqKUqGUqKEqGEqKOqGOqSAqZAqSIqZ",
    "IqSUqZUqSEqZEqSOqZOqTAqDAqTIqDIq/TUqTUqDUqTEqDEqTOqDOqNӱɅqBAqPAqHIqBIqPIqHUqBUqPUqHEqBEqPEqHOqBOqPOqMӱq/",
    "YAqYAq/YUqYUq/YOqYOqRӱq/WAqWArIrErOqNqVUq/KAxE;3099aȄҟ-ҰӚ+cʀ-Ӛaҟ-ҰӚsʀ-ӚaҰIÐAŶjӞ%IÐAŶjDIʞ YORIaҟ-Ұ>зi &/A",
    "qAq/IqIq/UqUq/EqEq/OqOqKAqGAqKIqGIqKUqGUqKEqGEqKOqGOqSAqZAqSIqZIqSUqZUqSEqZEqSOqZOqTAqDAqTIqDIq/TUqTUqDU",
    "qTEqDEqTOqDOqNӱɅqBAqPAqHIqBIqPIqHUqBUqPUqHEqBEqPEqHOqBOqPOqMӱq/YAqYAq/YUqYUq/YOqYOqRӱq/WAqWArIrErOqNqVUq",
    "/KAxEqVArIrErOjȫŨi-ҰƜLĥ%SūÆi IÐAŶjӞ%IÐAŶjDIʞ KOTO;3105aBOPOMOFO &BqPqMqFqDqTqNqLqGqKqHqJqQqXqZHqCHqSHqRq",
    "ZqCqSqAqOqErHqAIqEIqAUqOUqANqENq^qƚrRqIqUqIUqVqNGqGNqIHqOĒqNN;3131aH^UL &ŸoƏŸoŸ-īoNšt-ȕuƵoǴoƏǴoɐt-ŸuɜuĽu",
    "īu˺uˈuƵoɜoĽoƏĽoĽ-īoīpS^īošGoȕoƏȕoCЋoрo˺oˈoƵoApEoYAqEoEOpoYEOqoOoWAqEoOEoYOoUoWEOqpIoYUoEUoYIoIhFĎERh&ƏNš",
    "oNš-ǴuīuҊoɐ-Ÿ-īuǴuĽ-īvANīuYEOǽƵoɜ-ĽuīuҊoіɜoĽ-ŸuǴuī-ŸzǴuȕu˺oіĽwƏĽoī-ŸtNštǴtĽtȕoҊoƏšGoYESšGw-īxҊoіˈoƏƵoYEO",
    "ǽƵpO-YAtErIpU-YEOtrIoýEAtE;3190aɛЇANŊAĹLINK,ÆxЌǣx$Æx:Æy[Æx@ÆxǏǣxȫÆxɴǣxFIRSTÆxSEƤDÆx˞Æx@THÆxHEAVENÆxǌTHÆx",
    "ƣÆaBOPOMOFO &BUqZIqJIqGUqEErNNqOOrNNqIRqANNqINNqUNNqIMqƶqñNrUNNrMqOMrNGqINNNjŚ&PwTwKwHj&GHqLHqZYjŚ&Gj&GW",
    "qKWqOEqAHaCJK ð TlWGlXGlBXGlSWlHZZnGmPmZWGlSZWGlHZTnZPmPWGmZWnZZlNlHlSlPlSPlDlHZmGlSZmWZmTmGlPDmZlTNlSZZ",
    "mWGlHXWGmZZZGlPGlQ;31F0aҟ &/KUwSIxUwTOwNUwHAxIxUxExOwMUwRAxIxUxExOaƂENÌSIZ%H^UL ŸvNšvǴvɐvɜvĽvīvšGvȕwЋvрv",
    "˺vˈvƵvŸ AvNš AvǴ Avɐ Avɜ AvĽ Avī AvšG Avȕ AwЋ Avр Av˺ Avˈ AvƵ Avȕ UoKOREĜђʍOJEоg HU;3220oɛʞ $y:z[y@ԄyĀyM",
    "ǾyFIREyWAÐzOODyMǯLyǌTHySUNzTOCKyHAVEySOCIETYyNAMEySPECIALyFINƷIALyƤѐTUL÷yLABORyREPıØyCĺySTUDYzUġVISEyENÐ",
    "PɀEyıOURCEyĺIƷEyFEƉVALyRţySELFyǅCHaſɛʞ QUESŖsKĦERǫĀsSCHOOLsKOTOiЖǦĭÃqƐǦĭÃqǙǦĭÃp˼ǦĭÃqɚǦĭÃp˽ǦĭÃqуǦĭÃpÅYǦĭÃ",
    "aƂTNERëPÎſˆçTƐ $w:x[w@x|wÕx×wÅwĈqǙv $w:x[w@x|iH^UL ŸpNšpǴpɐpɜpĽpīpšGpȕqЋpрp˺pˈpƵpŸ ApNš ApǴ Apɐ Apɜ ApĽ ",
    "Apī ApšG Apȕ AqЋ Apр Ap˺ Apˈ ApƵ AiKOREĜђʍŗMKOzJUEUIiH^UL šG UaKOREĜSTûğæſɛʞ $s:t[s@ԑsĀsMǾsFIREsWAÐtOODs",
    "MǯLsǌTHsSUNtTOCKsHAVEsSOCIETYsNAMEsSPECIALsFINƷIALsƤѐTUL÷sLABORsɣRETsMŴsFEMŴsSUǰBLEsEXCELLØsPǽTsATĀŖsITE",
    "MsRţsCOPYuRžTsHIGHsƟsǒtEFTsÁsʵCǡsRELIGĩsSTUDYtUġVISEsENÐPɀEsıOURCEsĺIƷEsˊiˆçTǙ Õx×wÅwĈp˼u $v:w[v@w|vÕw×v",
    "ÅvĈqɚaɛЇTŬʞ ǢȅJANUARY+hFEBRUARY+hMARCH+hAPRIL+hMAY+hJUNE+jLY+hAUGUST+hSEPTEMBER+hOCTOBER+hNOVEMBER+hDECE",
    "MBÞÃ HGhERGiVaLIMIT%LIABILITYÎſҟ ӱrKӪSӪTӪNӪHӪMӪYAsUsOrRӪWAsIsEsOaÃ ERA NAME REIWAhAPAATOiRUHUAiNPEAiARUh",
    "IN,UjTIhUONhESUKUUDOiEKAAhONSUiOMUhKǃIjRATTOkORIIhGAŦjNMAiIGAjNIIhKYURIIhGIRUDAAhKIROlGUȨUlMEEśUlWATTOhG",
    "UȨUnTONhKURUZEIROkO$iEESUiORUNAjOPOhSAIKURUjNTIIMUiIR,UiØIlOhDAASUiESIiORUhTONhNANOiOTTOhHAITUhPAASØOkTU",
    "hBAARERUhPIASUśUjKURUkOhBIRUhHUýDDOjIITOhBUSSYERUhHURANiEKUTAARUhPESOjNIHIhHERUTUhPENSUjEZIhBEǯhОOhBORUT",
    "OhHONhPONDOhHOORUkNhMAIKUROkRUjHHAjRUKUjNSYONiIKUŦjRIlBAARUiEGAlTONjEśUhYAADOkRUiUANhRITśUjRAiUPIIjUBURU",
    "iEMUjNTOGENhWATTOaɛЇTŬʞ ǢȅȘR щ+m$+m:+n[+m@+n|+mÕ+n×+mÅ+mĈ+mĀ+mEL×+mј+nHIRŘ+m@Ř+nIFŘ+mÕŘ+n×Ř+mÅĔ+mĈŘ+mTƐ+",
    "s-$+t:+u[+t@aÃ HPAhDAhAUhĝhOVhPChDMj ÃDkCUBEDhIUhERA NAME HEISEIqSYOUWAqTAISYOUqMEIZIhCORPOR÷hPA AMPShNA",
    "hMU AiAhKAiBhMBhGBhCALhKCALhPFhNFhMU FkGiGhKGhHZhKHZhMHZhGHZhTHZhMU LiLhDLhKLhFMhNMhMU MiMhCMhKMhMM ÃDhC",
    "M ÃDhM ÃDhKM ÃDhMM CUBEDhCM CUBEDhM CUBEDhKM CUBEDhMÖSp ÃDhPAhKPAhMPAhGPAhRADkÖSr ÃDhPShNShMU SiShPVhNVh",
    "MU ViVhKVhMVȮGAhPWhNWhMU WiWhKWhMWȮGAhK OHMhM OHMhAMhBQhCCiDiÖKGiOhDBhGYhHAiPhINhKKiM CAPǰLiThLMiNiOGiXh",
    "MB ѾiILiOLhPHiMiPMiRhSRiVhWBhVÖMhAÖMaɛЇTŬʞ ǢȅDAY $+l:+m[+l@+m|+lÕ+m×+lÅ+lĈ+lĀ+lEL×+lј+mHIRŘ+l@Ř+mIFŘ+lÕŘ",
    "+m×Ř+lÅĔ+lĈŘ+lTƐ+r-$+s:+t[+s@+t|+sÕ+t×+sÅ+sĈ+mǙ+r-$aÃ GAL;4DC0aHEXAȎ ȅÌ CRƸ| HEAVENržEPT| ǌTHnDIFFICULёȧ",
    "Ì BEGINN,nYǀFUL FOLLYnWAIT,nƤFLICTnÌƮMYnHȴ,ʺGEÌRn/TAM,nTǅD,nPEACEnSTûSTĎnFELǒëPnGREȧǇSESSĩnMODţYnØHUSIAS",
    "MnFOLǒ,nWORKǦÌ DECAYEDnAPƜACHnэEMPL÷nBIT=THROUGHnGȪEnSPLITT=AƂTnREБnINNOCENCEnGRƸŲM,nMǀ ǷSnGREȧPREPONDER",
    "ƷEnÌ ABYSM]WAÐrCL,=FIREnINFLUENCEnDUR÷nRETRƸnGREȧPOWERnƜGıSnDARKEN,àÌ ínÌ FAɕYnOPǇIŖoBʏUCŖnǳ|RƷEpCǅSEnIN",
    "CǅSEnBǅKTHROUGHnCOM,ʺȮETnGAÌR,ʺGEÌRnPUSH,ŎWğnOPPıSĩnÌ WELLnREVOLUŖnÌ CAULDŦrAROUS=THǍERrKEEP=STĎ MнñnDEV",
    "ELOPȆnÌƨRRY,ƨɢNnABǍƷEnÌ WûERERrGØťWĦrJOYOUS LAKEnDISɪĩnLIMIT÷nINNçTRUTHn/PREPONDERƷEnAFʍʗLEŖnBEʹE ʗLEŖ;A",
    "0ěYI ЄťITnXnnPnEɂmATnXnnPmUOXooPmOTnXnnPmEXnmWUmBӀAӍҵnY˩mPIɂУnAӍɂnU˩nY˩mBBӸAȤUOЀOʩУoUˁoYʩmNBIʩpEЀAȤOȤUˁo",
    "YˁmHMIʩpEЀAȤUOЀOȤUˁoYXppPpRXqmMIɂУnAɂnUOʩnOɂnEXonU˩nYɂmFIɂnAɂnOXooPnU˩nYɂmVӀAɂnOɂnEXoPnU˩nY˩mDIɂУnAɂnUOX",
    "pnOҵmTIɂУnAɂnUOʩnOҵmDDIʩpEЀAȤUOЀOʩУoUˁmNDIʩpEXqoAȤOʩУoUˁmHNӸAȤUOXqoOTpXpPУoUTmNIɂУnAXooPnUOXppPnOҵmHLIʩp",
    "EЀAȤUOЀOXppPУoUˁoYˁmLӀAɂnUOʩnOҵnY˩mGӀAɂnUOʩnOɂnEɂnU˩mKIɂУnAӍɂnEɂnU˩mGGITpXppEЀAȤUOTqЀOȤEȤUˁmMGIEXqoAȤUOЀ",
    "OʩУoUˁmHXӸAȤUOTqЀOʩУmNGIEЀAȤUOTqXqoOʩУmHIToEXpnAɂnUOʩnOɂnEXooPmWAӍXooPnEXooPmZIɂУnAӍҵnY˩mCӀAӍҵnY˩mZZӸAȤO",
    "XppPУoUXppPpRXqoYˁmNZIʩpEЀAȤUOXqoOXpPoEXpoUXppPpRXqoYˁmSIɂУnAӍҵnY˩nSIʩpEЀAȤOʩУoUȤYˁmZHAȤUOЀOȤEȤUˁoYˁmŗȤU",
    "OTqЀOȤEȤUXppPpRXqoYˁmRRAXpoUOXqoOȤEȤUˁoYˁmNRAȤOXppPoEȤUˁoYˁm?ȤUOЀOȤEȤUˁoYˁmRAӍҵnY˩mJӀUOʩnOɂnU˩nY˩mQӀUOʩn",
    "OɂnU˩nY˩mJJӸUOЀOȤUˁoYʩmNJӸUOXqoOȤUXppPpRXqoYˁnYӸUOЀOȤUʩmXӀUOXpnOɂnY˩mYӀUOʩnOɂnU˩nY˩;A490dRADIC]QOTlLIlKI",
    "TlNYIPlCYPlSSIlGGOPmEPlMIlHXITlLYRlBBUTlMOPlYOlPUTlHXUOlTATlGAlZUPlCYTlDDURlBURlGGUOlNYOPlTUlOPlJJUTlZOT",
    "lPYTlHMOlYITlVURlSHYlVEPlZAlJOlNZUPlJJYlGOTlJJIElWOlDUlǑRlLIElCYmUOPmIPlHXOPl?TlZURlɔPlùlZZIETlNBIElKE;A",
    "4D0aLISU &BAmPȒDAmTȒGAmKȒJAmCȒDZAmTSɱmMAmNAmLAmSAmZHAnAmømHAmXAmHHAmFAmWAm?mYAmGHAmAnEmEnUmImOmUnEnHmOEm",
    "T$ MYA TIrNA POrMYA CYAvBOvNAvJEUfǟ ĤrƠaVAI ЄťEEpNnHȱWEEqNnPȱBHEEoȱMBȱKPȱMGBȱGBȱFȱVȱTEEoHȱDHEEpHȱLȱRȱDȱN",
    "DȱSEEoHȱZEEoHȱCȱJȱNJȱYȱKȱƶȱGȱMȱNEEoYȱIoNnHIpNnWIpNnPInBHIoInMBInKPInMGBInGBInFInVInTIoHInDHIpHInLInRInDI",
    "nNDInSIoHInZIoHInCInJInNJInYInKInƶInGInMInNIoYInAoNnøNnHApNnWApNnPAnBHAoAnMBAnKPAqNnMGBAnGBAnFAnVAnTȦDH˚",
    "nLAnRAnDAnNDAnSȦZȦCAnJAnNJAnYAnKApNnƶAnGAnMAnNAoYAnOOpNnHOOnʕqNnPOOnBHOOoOOnMBOOnKPOOnMGBOOnGBOOnFOOnVOO",
    "nTOOoHOOnDHOOpHOOnȀnROOnDOOnNDOOnSOOoHOOnZOOoHOOnCOOnJOOnNJOOnYOOnKOOnƶOOnGOOnMOOnNOOoYOOnUoNnHUpNnWUpNn",
    "PUnBHUoUnMBUnKPUnMGBUnGBUnFUnVUnTUoHUnDHUpHUnLUnRUnDUnNDUnSUoHUnZUoHUnCUnJUnNJUnYUnKUnƶUnGUnMUnNUoYUnOoN",
    "nNGONnHOpNnWOpNnPOnBHOoOnMBOnKPOnMGBOnGBOqNnFOnVOnTOoHOnDHOpHOnLOnROnDOnNDOnSOoHOnZOoHOnCOnJOnNJOnYOnKOn",
    "ƶOnGOnMOnNOoYOnEoNnNGENnHEpNnWEpNnPEnBHEoEnMBEnKPEqNnMGBEnGBEqNnFEnVEnTEoHEnDHEpHEnLEnREnDEnNDEnSEoHEnZE",
    "oHEnCEnJEnNJEnYEnKEnƶErNnGEpNnMEnNEoYEoGnLƚÌNEReĤeƠeʣeЄťNDOťFAtKAtSOOgMBOL FEƚlKEƚlT,lNIIlB^lFAAlTAAlD^m",
    "OĥlKŪlTĥlDO-OlJĥečk$k:l[k@ԇeЄťNDOLEƨtDO;A640aCѵŋZEMLYA~ZEMLYAÂDZELO~DZELOÂăDZE~ăDZEÂȥ~ȥÂDJERV~DJERVÂŻOʞ ",
    "UK~ŻOʞ UKÂBROAD Ȃ~BROAD ȂÂ˯]YER~˯]YERÂYERU!ȯ YER~YERU!ȯ YERÂч%YAT~ч%YATÂăYU~ăYUÂч%A~ч%AÂȺȚɸ~ȺȚɸÂBLƌEDɸ~B",
    "LƌEDɸÂч%ȺȚɸ~ч%ȺȚɸÂYN~YNÂăTSE~ăTSEÂГ DE~Г DEÂГ EL~Г ELÂГ EM~Г EMÂŻOCЎO~ŻOCЎOÂBINOCЎO~BINOCЎOÂ>ŻOCЎO~>ŻOCЎ",
    "Oj&MULTIOCЎObOMBIN=CѵVZMETtTķMĎĩSÍtHǍR%MĎĩSÍtМ MĎĩSÎSLAVONî˧aȄCѵ&UKRñąIȩŔYŔȷHğÍ+aYERȷГÍ+aȂtKAVYKAtPAYERO",
    "KbѵKAVYKAjPAYEROKÂDWE~DWEÂDZWE~DZWEÂZHWE~ZHWEÂCù~CùÂDZZE~DZZEÂTE!ËĊ~TE!ËĊÂTWE~TWEÂTSWE~TSWEÂTSSE~TSSEÂTù",
    "~TùÂHWE~HWEÂSHWE~SHWEÂ>O~>OÂĢ%O~Ģ%Oaʖ&CѵHğÍzГÎȄCѵ&EF+aч%EaBAMѸ&AnKAnUnKUnȱRȱTAEnOnNYInInLAnPAnRIIpȱLEEȱM",
    "EEȱTAAnNDAAoJAEMnMnSUUnMUnëIoIoHEUXoEUXnKYEEoETnNʝpoJʝnYOQnǑnYUQoAnN?nKEUXnPEUXnNJEEoTȱPUEnWUEnPȱFȱRUnLU",
    "nMInNInREUXoAEnKENnNGKWAENpGApAnɔnPʝnFUoOMnWAnNAnLInPInLOQnKOnMBENnRENnMENoAnTInKInMOoBAAnTETnKPAnĀnNTUU",
    "nSAMBAnFAAMAEnKOVUUpGHOMgȄǣ KOQNDONvTUKWØISgNJAEMLIgƠgƑiMMAgʀƑgʣ;A7ěʖ&CHǡSE T$ YēP,+e^ P,+eēSH^+e^ SH^+e",
    "ēQU+e^ QU+eēRU+e^ RUqEXĶ-ơȽT$ŢȲȽT$ŢqMID ȽT$ŢǪȽT$ŢqEXĶ-ŀȽT$ŢwơȽҫȲȽҫqMID ȽҫǪȽҫqEXĶ-ŀȽҫwơҫȲҫqMID ҫǪҫqEXĶ-ŀҫ",
    "qƛ Ȕu˙uƢŢqì.Ƿ ^LEq˱UPÉxÈÉx˶xĠ˶ǪĠ˶qSTıS(ơT$+bŀT$aŠŋEGYPTO˷ƴ#EGYPTO˷ƴ)EGYPTO˷ñ#EGYPTO˷ñ)Hƚ#Hƚ)TZ#TZ)TıĎO#T",
    "ıĎO)CUATRĎO#CUATRĎO)CUATRĎO!Ĥ#CUATRĎO!ĤgɵF+bS)AA#AA)AO#AO)AU#AU)AV#AV)AV!ƢŢ#AV!ƢŢ)AY#AY)ăCǗ#ăCǗ)KÔ#KÔ)K!",
    "ȃð#K!ȃð)KÔ(ȃð#KÔ(ȃð)BROKķL#BROKķL)L!ơð#L!ơð)O!āð ßLAY#O!āð ßLAY)O!ȀP#O!ȀP)OO#OO)PÔѻǘ#PÔѻǘ)P!FLOURã#P!FLO",
    "URã)P!SQUIRREL Ǔ#P!SQUIRREL Ǔ)QÔѻǘ#QÔѻǘ)Q!ȃð#Q!ȃð)RȊTǍA#RȊTǍA)RUMȊTǍA#RUMȊTǍA)V!ȃð#V!ȃð)VY#VY)VISIGOTHîZ",
    "#VISIGOTHîZ)TƫÔ#TƫÔ)TƫÔѻǘ#TƫÔѻǘ)Vƌ#Vƌ)ET#ET)IS#IS)Ƥ#Ƥaʖ&USaŠ/&DUMtLUMtMUMtNUMtRUMgɵRUM#TUMtUM)бD#бD)бF#б",
    "F)бGvèбG#èбG)èL#èL)бR#бR)бS#бS)бT#бTaʖ&ŀАǵqƑqŹɶaŠŋSALTĎO#SALTĎO)èH#L!ǧ(BELTg&SINO˷ƛ)N!ǘ#N!ǘ)C!ĝ#C!ĝ+aPŞT",
    "]ĊtHʴ)B!FLOURã#B!FLOURã)FÔ#FÔ)VOLAPUK AE#VOLAPUK AE)VOLAPUK OE#VOLAPUK OE)VOLAPUK UE#VOLAPUK UE)G!ѕð#G!ѕ",
    "ð)K!ѕð#K!ѕð)N!ѕð#N!ѕð)R!ѕð#R!ѕð)S!ѕð#S!ѕð)HòvăĖEvɡGvL!BELTv/õIgɵQ)èK+cTvJӅvǻvBǯ#Bǯ)Ȃ#Ȃ)UÔ#UÔ)ʉA#ʉA)ʉI#ʉI",
    ")ʉU#ʉU)ƥPOLã O#ƥPOLã O)^LɺNA W#^LɺNA W)CʴvSòvZʴvD!Źð ßLAY#D!Źð ßLAY)S!Źð ßLAY#S!Źð ßLAY;A7D0)ȺбG#ȺбG;A7D",
    "3t>Tƫ;A7D5+aWYNN)ËSCOTS S#ËSCOTS S)SIGMOID S#SIGMOID S;A7F2aʖ&õCyFyQaŠŋăŐH#ăŐHgEPIЇ&ƖɊS Iaʖ&õHÔq/LȸOEaŠɵ",
    "èMgEPIЇ&ăF+hPyĠMz LOøyARДMaSYLOTI NAGRI &AuInÄDVISVýn&UuEuOnÄHASƦAn&KOvHOuGOvHOnÄŮn&COvHOuJOvHOuTTOwHOuD",
    "DOwHOuTOvHOuDOvHOuNOuPOvHOuBOvHOuMOuROuLOuRROuSOuHOnƿyIyUyEyOOnPOETRYÆ-1z2z3z4nÄ˳HASƦA;A830aʜTH ĦîFЕ$ ȇz",
    "ĸvƕȇSv$ ҤzÅHvƕҤSmȇÆmɄCEHȴERÆmRUPEEÆmQUдTYÆ;A840aPHAGS-PA &KəGAqøqCəJAqþqTəDAqNAqPəBAqMAqƔsHAqDZAqWAqZHAr",
    "Aq/AqYAqRAqLAq?rAɅqAqIqUqEqOqQAqXAqFAqGGAqEEjǥɯ%&WÓYAj&ĪsHAqľqĿq˳YAqӞEЫ?vD HAqASPIRAT%FAjǥɯ%&RAlġFIX%&RA",
    "j&ʄjЂŷÆj>ŷÆjǣ ?Do>?D;A880aSAURêĶƗŮqǨl&AtAԋƀ+bR+aL+bLsEtEsAIsOtOsAUsK˟G˟øsC˟J˟þsĪuHAsľuHAsĿsT˟D˟NAsP˟B˟MA",
    "sYAsRAsLAsVAs?tSAtAsHAsĘlˏƗHAARUlƿAwIxIwUxUwƀ+fR+eL+fLwExEwAIwOxOwAUlÄɉqʄ;A8CElDɼmѣmɖT щr$r:s[r@s|rÕs×rÅ",
    "rĈ;A8E0aȄDEVANAǫI č+b$+b:+c[+b@+c|+bÕ+c×+bÅ+bĈv&ƘU+cKƘNƘPƘRƘVIvÄяaDEVANAǫIƗSPAC=ʄqʄ ɉq>ʄ ɉqʄ :+d[+cяqPUS",
    "HPIKAlGAP FĎERlɁETlŷðlÄSIDDHAMlJAēOMl&AYlƿYaKéH LI čp$p:q[p@Ӧj&KəGAqøqSəZAqþqTAqHTAqNAqPəMAqDAqBAqRAqYAq",
    "LAqWAqƧɅqVAqCAqAqOEqIqOOjЮ UEpEpUpEEpOjT$ PL˹UoCALYAt PL˹UjÄCWIoSHYAaREJ^ &KAoGAoøoTAoDAoNAoPAoBAoMAoCAo",
    "JAoþoSAoRAoLAoYAoWɱoMBAoƶApDApYJAoAhǋIsUsEsAIsOsAUsEUtAhˏƗNGxwRwHhɉ;A95FhɣŶaH^UL CHOSEĥ Ǵ-ɜxĽxīxȕqɐ-ŸwƏŸ",
    "wǴwƏǴwɜwĽwƏĽwіĽwīwȕwрqɜ-ŸwǴwīqĽ-ī-˺wрwƵqƏī-ĽqšG-ɐwƵqƏȕ-Ƶv˺qˈ-ƵqƵ-īqƏYEOǽƵ;A980aJAVANESEÍǱNY^GAoCECAKoLéR",
    "oWIGþNj&AqIƞWIrrIqUqPA CEREKqø LŬTz RASWADIqEqAIqOqKAsǔSAKtMURDAqGAs MURDAqøqCAs MURDAqJAqþ MURDAqJAԂþqĪ",
    "tԂľtԂNA MURDAqTAs MURDAqDAsԂNAqPAs MURDAqBAs MURDAqMAqYAqRAs AGŪqLAqWAqSA MURDAuAHAPRANAsɅjÄCECAKɽLUjǋTA",
    "RŪvOLĥuWULUyȮLIKuSUKUy MƌUTuTAL,uDIRGA MUREuPEPETjˏƗKERETyPƚKALyCAKRAjP^KONj<REREƶANj.REREƶANjPADA ɼPoMA",
    "DYAoLUHURoWĦUoP^KAToL,SApŪSIoADEGs ADEGoPISŬHjèPADA PISŬH;A9CFjP^R^KEPjčp$p:q[p@Ӧ;A9DEjPADA TIRTA TUMETE",
    "SoISEN-ISENaMYANMǹ&?N GHAuŗuJHAuĿuBHAiÄ?NǔWiʖ&?N REDUPLIC÷i&TAI LA=þzFAzGѴJѴľ+bHAzĿiTAI LA=čy$y:z[y@Ԅi&T",
    "AI LA=ĘzDѴBÓHA;AAěŗM &AmImUmEmAImOmKȒGȒNGUEoAmCHɱmJȒNHUEoAoJAmTȒDȒNUEnAmľmPAnPȒBȒMUEnAmBBAmYAmRAmLAmVAmS",
    "SAnAmHAfƿAqIrIqEIqUqOErqAIrUqUEfˏƗYAuRAuLAuWA;AA40f&ŚKsGsNGfˏƗŚNGf&ŚCHsTsNsPsYsRsLsSSfˏƗŚM+aH;AA50fčl$l:",
    "m[l@Ԇ;AA5Cfǟ SPIRALrDɼsѣrǝDɼaMYANMǹ&ƈMTI GAwCAxHAwJAxHAwþwĪyHAwľyHAxHAwNAwSAwHAxHAwFAiʖ&ƈMTI REDUPLIC÷i&",
    "ƈMTI XAwZAwRAjOGOȎ ƈMTI OAYyQNyHMiǢAITŝEXCá÷v$v:i&AITŝRAiÄPAOƞRķT$nTAI LA=T$-2+c5i&SHWE PŞŪ CHƘ?aTAI VIE",
    "T &ŀKOȲKOǪKHOȲKHOǪKHHOȲKHHOǪGOȲGOǪNGOȲNGOǪCOȲCOǪCHOȲCHOǪSOȲSOǪNYOȲNYOǪDOȲDOǪTOȲTOǪTHOȲTHOǪNOȲNOǪBOȲBOǪPO",
    "ȲPOǪPHOȲPHOǪFOȲFOǪMOȲMOǪYOȲYOǪROȲROǪLOȲLOǪVOȲVOǪHOȲHOǪOȲOjMAI K^jЮ AApIpUEqpEpOjMAI KHITjЮ IApUEAqApAUEq",
    "YqNqMjT$ƨI EKsNUƚsTHOsSĥ;AADBjǢKONqNUƚqSAMqHO HOIqKOI KOIaMEETEIƨYEK &EuOuŗuþuĪwHAuľwHAuĿu?vSAnǋIIyUUyAA",
    "IzUzAUnùIƈNnAH^ KHUDAMoNJInЄťREPETIŶnХ REPETIŶnǋǨoIȨA;AB01aïIOPîЄťTTHUԊvO;AB09sDDHUԊvO;AB11tZUuIuAAuŉuO;",
    "AB20sCCHHAwUwIwAAwEExwO;AB28sBB˜;AB30aŠ/&ĝR%ɞtA ӝED-SCHWAtǐ&EuARR%EtE!FLOURãtLENIS FtɡGӅtL!ĠLAZY S+a>ËÒ+",
    "aËR,tMӅtNӅtƚӅtǐ&O+gÔtĖOÔtĠOEtèOEÔ+iĞð+b ʎ-O+iÔtƉRRďRgɵR!.LEG#R ʁƩ ĳLEt>RtRӅt>RӅtɡR+b!R,tBASEȡćtU!Ź.LEGvĝ",
    "!Ź.LEGuItèUItU!<Ċtǻw!ŀ.R,+g<SERIFtX!ŀ.R,+cNG <LEG+n(ŀ.R,+oʁ SERIFtY!Ź.LEGaʖļ!Ġļj&/HƚwL!ĠLAZY S+dËÒwU!<Ċa",
    "Š/&SAƈ YATtч%EtĖOEtUOtĠɞaʳɵȂaŠ/&DZʡ!ǧtTSʡ!ǧuURN%R!ËÒaʖ&/èWq_ȹqÁȹ;AB70aùROKEE /&AwEwIwOwUwVwGAwKAwGөHAxөL",
    "AxөMAxExIxOxUwNAwHNAwNAHxөQUAyEyIyOyUyVwSAxxөDAwTAwDEwTEwDIwTIwDOxUxVxLAwTLAyEyIyOyUyVxSAyEyIyOyUyVwWAxө",
    "YAaMEETEIƨYEK &KOKuSAMuLAIuMITuPAuNAuǻLuTILuKȘuNGOUuTȘuWAIuY^uHUKuUNuIuPHAMuATIYAuGOKuJHAMuRAIuBAuJILuDI",
    "LuGȘuDȘuBHAMuKOKӷLAIӷMITӷPAӷNAӷTILӷNGOUӷI LONSUMnǋONAPyINAPyANAPyYENAPySOUNAPyUNAPyùINAPyNŪnùIKHEInLѸIYE",
    "KnAPUN IYEK;ABF0nčt$t:u[t@Һ;D7B0aH^UL JŪSEĥ O-YEOtO-IrYO-AvEuEOrU-YEOtI-IrYU-AEuOrEU-AuEOvuOrI-YA-OvEuEO",
    "vtO-ItYOuUtIrýEA-AxE;D7CBiĥSEĥ Nš-ɐxCЋrƏǴ+c-ĽrǴ-Ľyī+c-ŸyȕzЋy˺rɐ-ƏŸxŸ-ƵrƏɐ-рrɐ-ɜ-ƵxĽ-Ǵ+dˈxYESšGzOǽƵ-Ƶrіɐr",
    "ɜ-NšxƏNšrƏɜrɜ-Ľ-īxȕrĽ-Ǵxɐ-ˈxɜrƏĽrĽ-ī-ǴxȕyЋrī-ɜwіĽsS^ī-Ÿ+bǴsIOS-ҊwȕxЋw˺wƵrҊ-ĽzіĽrYESšG-ɜ+aƵrȕ-ĽxƏĽrƏȕrˈ-ī",
    "z˺;FBěŠ/LȸFFwIwLwFIxLvāS TvST;FB13aARMENą/LȸMķNOW+cECH+cINIyVEW NOWyMķXEH;FB1DaHEBREW &YOD!HIRIQhО JUDEO",
    "-SPANã VARIKAhLȸYIDDã YOD YODǱȼiETʍ˖| ȓoWɢ ƴtDŴTtHEtɟtáEDtŚMEMtRćtTAVo˖| ǲÍoëN!ëNŨzINŨyː(ëNŨ+kINŨoƴ!PAȼy",
    "QAMATSyMAPIQoBET!ːoGŒL!ːoDŴT!ːoHE!MAPIQoVAV!ːoZȓ!ː;FB38oTET!ːoYOD!ːoŚɟ!ːoɟ!ːoáED!ː;FB3EoMEM!ː;FB40oƋ!ːoљ",
    "!ː;FB43oŚPE!ːoPE!ː;FB46oƔDI!ːoQOF!ːoRć!ːoëN!ːoTAV!ːoVAV!HOáoBET!RAFEoɟ!RAFEoPE!RAFEiȸƴ áEDaýB˫ƴ WASLAřŕo",
    "BEEHĄҲPEHѰBEħӉoTTEħĄvŕvɠvƁpEħӉpTEHĄҲVEHѰPEħӉoDʤҲNʤҲTCħӉtEHĄwŕwɠwƁoľHALĄvŕpAHALĄuŕpULĄsŕpDALĄtŕoJEHĄsŕoRɋ",
    "ĄtŕoKEħӉoGAFĄsŕsɠsƁpUEHĄҲNGOEHӉpOŝGHUĿİaŕoRǎӉoħ!Ƴ*İhŕsGOALĄxŕxɠxƁsDOACHêMEEİeŕ+eɠ+eƁoƳŢREEřŕzʁ ț*İqŕhǢʌs",
    "ȏoƅ*xȏp[ɑ*zȏzҙÈŇ*+sȏo@ɑ*yȏo>ȔÊoƅ ǠLY*+iȏoR,o/ȼ*yȏoWASLA*;FBD3h&NGĄrŕrɠrƁoUĄqŕoOEĄrŕoYUĄrŕoU!ț*ĄoVEĄrŕoKI",
    "RGHIZ OEřŕwYUřŕoEĄqŕqɠqƁoUIGHURƞZAKH KIRGHIZ ɤŵ+xƁiȸƳ!ț*!ƴİvŕ+rEİtŕ+qǚİuŕ+qUİsŕ+qOEİtŕ+qYUİtŕ+qEİsŕ+sɠqU",
    "IGHUR KIRGHIZ Ƴ!ț*!ɤİ+sŕ++sɠiETʍFARSI ʤyŕyɠyƁiȸƳ!ț*ŽİqƇİqĉİqɤİqʤqBEHŽřƇřƄřĉřɤřʤqTEHŽřƇřƄřĉřɤřʤrħŽİaĉİaɤİ",
    "aʤqʒȞİaĉĄqƇŽřĉĄqƄŽİaƇİaĉĄqSĔŽİaƇİaƄİaĉĄrADȞřĉĄqDADŽřƇřƄřĉĄqȼȞřĉĄqZAHƱĄqñŽřĉĄqгŽİbĉĄqFEHŽřƇřƄřĉřɤřʤqQAFȞř",
    "ĉřɤřʤqɟ!ƴřʒřƇřƄřářĉřɤřʤqáŽřƇřƄřĉřɤřʤqĉŽİaƇİaƄİaĉİaɤİaʤqǎŽİaƇİaƄİaĉİaɤİaʤqħŽřĉřɤřʤqƳŽřƇřƄřĉřɤřʤqƧL!ҕƴĄqɋ!",
    "ҕƴĄqɤ!ҕƴĄq?ľ!DƒȭİcЭȭİcFɝİcDƒİcЭİcҕƴĄqƳ!ț*!ɋė+qZñė+qĉė+qǎė+qȟ+qʾqBEH!ɋėzZñėzĉėzǎėzȟzʾqTEH!ɋėzZñėzĉėzǎėzȟz",
    "ʾrħ!ɋė+aZñė+aĉė+aǎė+aȟ+aʾqFEH!ȟzʾqQAF!ȟzʾqɟ!ƴėzáėzĉėzȟzʾqáƱėzȟzʾqĉ!ƴė+aĉėqǎ!ɋė+aZñė+aĉė+aǎė+aȟ+aʾqɤ!ҕƴėq",
    "Ƴ!ɋėzZñėzĉėzǎėzȟzʾzț*Žŵ+qƇŵ+qƄŵ+qǸ+qħŵqBEHӹǸzħŵqTEHӹǸzħŵrħ!ǸqʒȞŵ+aǸqƇŽŵzǸqƄŽŵ+aǸqSĔŽŵ+aƇŵ+aƄŵ+aǸrADȞŵzƄŵ",
    "zǸqDADӹǸqȼȞŵqZAH!ǸqñŽŵzǸqгŽŵ+bǸqFEHӹǸqQAFȞŵzǸqɟӹáŵzǸqáӹǸzħŵqĉŽŵ+aƇŵ+aƄŵ+aǸqǎŽŵ+aƇŵ+aƄŵ+aǸ+aħŵqħŽŵzǸzҕƴŵq",
    "ƳӹǸzħŵ+aAMZA*Ʊ Ɓ+qħ ƁqBEHƱ Ɓzħ ƁqTEHƱ Ɓzħ ƁrħƱ Ɓ+aħ ƁqSĔƱ Ɓ+aħ ƁrHĔƱ Ɓ+bħ Ɓqɟ!á Ɓzĉ ƁqáƱ ƁqǎƱ Ɓ+aħ ƁqƳƱ ",
    "Ɓzħ Ɓq?ľ!Fɝ Ɓ+cDƒ Ɓ+cЭ Ɓqȼ!ɤřʤqñ!ɤřʤqг!ɤİbʤqSĔ!ɤİaʤrHĔ!ɤİbʤqƇ!ɤřʤqʒ!ɤİaʤqƄ!ɤİaʤqSAD!ɤřʤqDAD!ɤřʤqSHĔŽİbƇİ",
    "bƄİbĉİbɋĄrĔ!ɋĄrAD!ɋĄqDAD!ɋĄqȼ!ȟzʾqñ!ȟzʾqг!ȟ+bʾqSĔ!ȟ+aʾrHĔ!ȟ+bʾqƇ!ȟzʾqʒ!ȟ+aʾqƄ!ȟ+aʾqSAD!ȟzʾqDAD!ȟzʾqSHĔŽė",
    "+bƇė+bƄė+bĉė+bɋėrĔ!ɋėrAD!ɋėqDAD!ɋėqSHĔŽŵ+bƇŵ+bƄŵ+bǸrĔ!ħŵrHĔ!ħŵqȼ!ǸqSĔŽ Ɓ+aƇ Ɓ+aƄ ƁrHĔŽ Ɓ+bƇ Ɓ+bƄ ƁqȼƱ Ɓq",
    "ZAHƱ Ɓqƴ!Fɝȭė+jISOLAT%ƃaORє<ƺh.ƺaýBîLȸRAHȍHU AĘAHsDI AĘAHU ANH+gAA+gUM+iAA+hĿqSAĘĘAHU ŞYHI WA-AũHqŞYHI A",
    "S-SŞAMwM AS-SŞAMxAA AS-SŞAMw AS-SŞATU WAS-SŞAMqQUDDISA SIRRAHqSAĘĘHU ŞYHI ǁũHEE WA-SALáqŞYHAA AS-SŞAMqTA",
    "BAýKA WA-TAAŞAqRAHȍHѸAĘAHqTEHŽ!ǸzƇŽė+nɠ+iǸzƄ!ǸzĉŽŵ+jƇŵ+jƄŵqʒƱȞė+oɠqƇƱɳ+jȟqSĔȞŽŵ+aʒȞŵ+kȟ+aĉȞė+oɠ+kʒŵ+kĉė+",
    "pɠrADȞȞė+mɠzĉƱėrHĔȞƱė+pɠ+bʒɳ+bĉ!Ƅė+qɠ+lĉė+qɠqDADȞ!ȟzƄƱė+oɠqȼƱȞė+nɠ+jǸ+jʾqñŽƱėzĉƱė+oɠ+jȟqгƱƱė+lʾ+lȟqFEH!Ƅ",
    "Ʊė+oɠqQAFƱȞė+jĉėqáȞƱė+iʾ+iȟzʒŽŵ+oŕzƄƱė+oɠzĉȞė+nɠqĉȞŽŵ+jǸ+jʾ+aʒȞŵ+kǸ+aƄŽŵ+kǸ;FD92+aʒ!ƄŵqħƱŽŵ+jǸqǎȞ!Ǹ+jȟ+a",
    "ʒƱė+pɠ+kȟ+aĉɳ+kȟqƳƱƱė+oɠqBEH!ƄɳqTEHŽɳ+jȟzƄɳ+jȟzĉɳ+jȟqʒƱɳ+aƇ!ȟ+aĉ!ȟqSĔ!Ƅ!ȟrADȞɳrHĔȞɳqDADȞɳqáŽɳzĉɳqƳȞɳzʒɳz",
    "ĉɳqĉƱɳqQAFƱɳqǎȞɳqQAFƱȞŵqáȞ!ǸqñƱɳqɟƱɳqǎŽȞŵqĉ!ƄɳqáŽ!ǸqɟƱƱėqáŽƱėqǎŽȞėqʒȞɳqƇŽɳqĉŽɳqFEHƱɳqBEHȞɳqɟƱ!ǸqñŽ!ǸqSAD",
    "Ʊ!ǸrĔ!ƄɳqǎŽɳ;FDCFqSŞAMUHU ŞYNAA;FDF0tLA US%AS KORANîɗÍĄqQŞ US%AS KORANîɗÍĄqAĘHĄrKĝĄqMOHƒDĄqSAáĄqRASOULĄq",
    "ŞYHEĄqWASALáĄqSAĘĄvĘȘ ŞYHE WASALáqJAĘJŞLOUȘaRIALÎýBîLȸBISMIĘHƮ-RAHƣƮ-RAHEEMqǥHAANAHU WAŲAŞAqAZZA WA Jĺaʐ",
    "ĹSŬCś-ԣt10u1ԬaPıØAĹƃ ȅĚĤ+fɛЇĤ+rƠ+fƑ+fʀƑ+f˶+fʣ+f<ęӖ+f.ęLØICЎBRAKCET+fĞґIS;FE20aȄLȸ<ĸt.ĸk>Ò <ĸx.ĸkĂ <ĸr.ĸk",
    "Ƥɯ=ĂkLȸ<ĸÊt.ĸŰÒ <ĸÊq.ĸŰĂ <ĸÊr.ĸŰƤɯ=ĂÊlѵTITLO <ĸz.ĸaPıØAĹƃ ȅĚ:Ũ LEADER+fEM ŧ+gN ŧ+fŀä+fWAVY ŀä+f<ƺ+f.ƺ+f<",
    "˻+f.˻+f<ПŤ+f.ПŤ+f<ĭӖ+f.ĭӖ+f<>˨+f.>˨+f<˨+f.˨+f<ǷŤ+f.ǷŤ+f<ęǷŤ+f.ęǷŤaSESAMEŨÝSESAMEŨaPıØAĹƃ ȅĚ<ɩ+f.ɩaŧ%ßäaƟ",
    "ȡßäaWAVY ßäa>WAVY ßäbê%ŀäaƟȡŀäaWAVY ŀäa/ĤgɛЇĤgƠ;FE54gʀƑgƑgʣg˶hM ŧg<ƺg.ƺg<˻g.˻g<ПŤg.ПŤgˆERőAMɪûhʶISKgǲőз-",
    "ˑgĮőĵőɶ;FE68gЌʽgDOĘRőġеőCOMMERCI]AT;FE70aýBîFɝȭĄhTATWEEL!Fɝȭ*hDƒȭĄhǓ FRAGȆhЭȭĄ;FE76hFɝĄnƁhDƒĄnƁhЭĄnƁh?ľĄ",
    "oƁiUKUNĄnƁh&țĄoƴ!MAľ*İkŕyț*İkŕoǚ!ț*İjŕoƴ!țÊİkŕoƳ!ț*İjŕ+jɠ+jƁoƴĄtŕoBEHѰTEHƨRBUTAİaŕsISOLAT%ƃsŕsɠsƁpħĄҲʒĄҲ",
    "ƇѰƄĄҲDALĄsŕoƧLĄtŕoɋĄsŕoZñĄtŕoSĔĄtŕtɠtƁpHĔӉpADѰDADѰȼѰZAHѰñѰгӉoFEHѰQAFѰɟѰáѰĉĄҲǎĄҲħѰǚĄsŕoɤİbŕoʤsŕsɠsƁiȸá!ƴ!",
    "MAľ*İvŕ+jț*İvŕ+pȏİvŕ+eISOLAT%ƃ+eŕ;FEFFaщ WIDTH NO-BǅK ʔ;FF01aFULLWIDTH ˶kɨkˆERÍkDOĘRÍkġеÍkAMɪûlӄk<ƺk.ƺk˧",
    "kǲÍkĤkз-ˑkƠkʽkčq$q:r[q@ӤkƑkʀƑkĮÍkɶkĵÍkʣkCOMMERCI]ATkŠŋA+fB+fC+fD+fE+fF+fG+fH+fI+fJ+fK+fL+fM+fN+fO+fP+fQ+",
    "fR+fS+fT+fU+fV+fW+fX+fY+fZlEFT ɩkЌʽlѺ ɩkАǵkŀäköǵkŠ/&ǂB+dC+dԛ+dH+dI+dJ+dK+ӾO+dP+dQ+dR+dS+dT+dU+ԚY+dZlEFT ",
    "˻kĚäk.˻kÒk<ęƺk.ęƺaĸWIDTH ɛЇƠk<ǷŤk.ǷŤkɛЇĤkҟ ȫŨt&WO+a/A+gI+gU+gE+gO+gYA+hU+hO+gTUs-ҰƜLĥ%SūÆs &ÓŔȷȩO+aKA+bӡ",
    "SA+bӡǕbӡNA+bӡHA+bӡMA+bӡYA+bU+bO+aRA+bӡWÓNtӚtʀ-ӚkH^UL FĎERr&ŸyƏŸyŸ-īyNš+d-ȕ+eƵyǴyƏǴyɐ+d-Ÿ+eɜ+eĽ+eī+e˺+eˈ+",
    "eƵyɜyĽyƏĽyĽ-īyīzS^īyšGyȕyƏȕyCЋyрy˺yˈyƵ;FFC2yAzEyYÓEyEOz;FFCAyYEO+ayOyWÓEyOE;FFD2yYOyUyWEO+azIyYU;FFDAyEU",
    "yYIyI;FFE0aFULLWIDTH еÍkPūÍkŊÍkĂkBROKENŢkYENÍkWONÍ;FFE8aĸWIDTH ƃS ưǠkƍkUPʚkâkʱkĭÃkęÇ;FFF9ƭÐäǹANŊAĹƷǮxɈxÐ",
    "ȶAśaOBJECT REɄCEȆ ђTÞREɄCEȆ ђÐ"]

end ChangeReview.Text
